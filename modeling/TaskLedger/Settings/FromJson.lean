import TaskLedger.Json.Compound
import TaskLedger.Settings.Basic

/-!
# Settings from JSON

An object or a list is read into the default settings.  Only a sink has members that have to be
there: its name and its form.  Members that nobody knows are passed over.
-/

namespace TaskLedger.Settings

open Json

variable {ε : Type}

/-- Reads a number of 64 bits. -/
def wordReader : Reader ε UInt64 := fun cs =>
  (natural UInt64.size cs).map fun p => (UInt64.ofNat p.1, p.2)

/-- Reads the version. -/
def versionReader : Reader ε Unit :=
  variant fun s => if s = version then some () else none

/-- Reads levels by class. -/
def levelsReader : Reader ε Levels :=
  dictionary (fun key level levels => levels.insert key level) ∅ Level.reader

/-- Reads parameters by name. -/
def paramsReader : Reader ε Params :=
  dictionary (fun key value params => params.insert key value) ∅ text

/-- The members of the crew. -/
def crewFields : Fields ε CrewSettings := [
  .of "min_workers" .never wordReader fun n c => { c with minWorkers := n },
  .of "max_workers" .never wordReader fun n c => { c with maxWorkers := n },
  .of "idle_timeout_secs" .never wordReader fun n c => { c with idleSeconds := n },
  .of "thread_name_prefix" .never text fun s c => { c with namePrefix := s }]

/-- The members of the flush interval. -/
def flushFields : Fields ε UInt64 := [
  .of "interval_ms" .never wordReader fun n _ => n]

/-- The members of a sink. -/
def sinkFields : Fields ε SinkSettings := [
  .of "name" .always text fun s sink => { sink with name := s },
  .of "sink_type" .always (variant SinkForm.ofName?) fun form sink => { sink with form },
  .of "params" .never paramsReader fun params sink => { sink with params }]

/-- The members of the levels of both kinds. -/
def categoryFields : Fields ε (Levels × Levels) :=
  Kind.all.map fun kind => .of kind.name .never levelsReader fun levels both =>
    match kind with
    | .runner => (levels, both.2)
    | .croner => (both.1, levels)

/-- Reads a sink. -/
def sinkReader : Reader ε SinkSettings :=
  record sinkFields { name := "", form := .journal }

/-- The members of the settings. -/
def fields : Fields ε Settings := [
  .of "version" .never versionReader fun _ s => s,
  .of "pool" .never (record crewFields {}) fun crew s => { s with crew },
  .of "flush" .never (record flushFields ({} : Settings).flushMillis) fun n s =>
    { s with flushMillis := n },
  .of "sinks" .never (sequence sinkReader) fun sinks s => { s with sinks },
  .of "categories" .never (record categoryFields (∅, ∅)) fun both s =>
    { s with runnerLevels := both.1, cronerLevels := both.2 }]

/-- Reads settings. -/
def reader : Reader ε Settings :=
  record fields {}

/-- The settings that a whole text stands for, or its first fault. -/
def ofJson (s : String) : Except (Fault Empty) Settings :=
  document reader s

end TaskLedger.Settings
