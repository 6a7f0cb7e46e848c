import Std.Data.TreeMap
import TaskLedger.Level
import TaskLedger.Outcome.Kind

/-!
# Settings

The settings of a ledger: the crew that ships its batches, how often buffers are flushed, the sinks
that batches go to, and the levels of the classes of either kind.  Everything has a default, so that
empty settings are complete.
-/

namespace TaskLedger

/-- The crew of workers: how many of them stay and how many there may be, after how many seconds
without work another worker leaves, and what their names begin with. -/
structure CrewSettings where
  minWorkers : UInt64 := 1
  maxWorkers : UInt64 := 8
  idleSeconds : UInt64 := 20
  namePrefix : String := "task-log"
  deriving DecidableEq

/-- What a sink does with its batches: it writes them to the journal, appends them to files, or
sends them over the network. -/
inductive SinkForm where
  | journal
  | file
  | network
  deriving DecidableEq, Repr

namespace SinkForm

/-- The name of a form in settings. -/
def name : SinkForm → String
  | journal => "log"
  | file => "file"
  | network => "network"

/-- The name of a form in a listing. -/
def title : SinkForm → String
  | journal => "Log"
  | file => "File"
  | network => "Network"

/-- The form with a given name. -/
def ofName? (s : String) : Option SinkForm :=
  [journal, file, network].find? (·.name == s)

theorem ofName?_name (form : SinkForm) : ofName? form.name = some form := by
  cases form <;> decide

end SinkForm

/-- The parameters of a sink by name. -/
abbrev Params := Std.TreeMap String String

/-- One sink with its name, what it does, and its parameters. -/
structure SinkSettings where
  name : String
  form : SinkForm
  params : Params := ∅

/-- The settings of a ledger: its crew, the milliseconds between two flushes, the sinks in order,
and the levels of the classes of tasks and of scheduled jobs. -/
structure Settings where
  crew : CrewSettings := {}
  flushMillis : UInt64 := 1000
  sinks : List SinkSettings := []
  runnerLevels : Levels := ∅
  cronerLevels : Levels := ∅

namespace Settings

/-- The levels of the classes of a kind. -/
def levels (s : Settings) : Kind → Levels
  | .runner => s.runnerLevels
  | .croner => s.cronerLevels

/-- Settings with other levels for one kind. -/
def setLevels (s : Settings) (levels : Levels) : Kind → Settings
  | .runner => { s with runnerLevels := levels }
  | .croner => { s with cronerLevels := levels }

/-- The only version of settings. -/
def version : String := "V1"

end Settings

end TaskLedger
