import TaskLedger.Json.Tree
import TaskLedger.Settings.Basic
import TaskLedger.Toml.Writer

/-!
# Settings as texts

Settings are written in full, defaults included, in either format.  Levels and parameters may stand
in any order: a `Listing` says in which, and `Settings.listing` has the order of their keys.
Reading a written text gives the same settings again.
-/

namespace TaskLedger

namespace Settings

/-- A sink with its parameters in some order. -/
structure SinkListing where
  name : String
  form : SinkForm
  params : List (String × String)

/-- Settings with all levels and parameters in some order. -/
structure Listing where
  crew : CrewSettings
  flushMillis : UInt64
  sinks : List SinkListing
  levels : Kind → List (String × Level)

section ToJson

open Json

/-- Levels by class. -/
def levelsTree (levels : List (String × Level)) : Tree :=
  .object (levels.map fun (key, level) => (key, .text level.name))

/-- The members of a sink. -/
def SinkListing.tree (sink : SinkListing) : Tree :=
  .object [
    ("name", .text sink.name),
    ("sink_type", .text sink.form.name),
    ("params", .object (sink.params.map fun (key, value) => (key, .text value)))]

/-- The members of settings. -/
def Listing.tree (l : Listing) : Tree :=
  .object [
    ("version", .text version),
    ("pool", .object [
      ("min_workers", .natural l.crew.minWorkers.toNat),
      ("max_workers", .natural l.crew.maxWorkers.toNat),
      ("idle_timeout_secs", .natural l.crew.idleSeconds.toNat),
      ("thread_name_prefix", .text l.crew.namePrefix)]),
    ("flush", .object [("interval_ms", .natural l.flushMillis.toNat)]),
    ("sinks", .list (l.sinks.map SinkListing.tree)),
    ("categories", .object (Kind.all.map fun kind => (kind.name, levelsTree (l.levels kind))))]

/-- Settings as JSON over several lines. -/
def Listing.toJson (l : Listing) : String :=
  String.ofList (l.tree.pretty 0)

end ToJson

section ToToml

open Toml.Write

/-- The two sections of a sink. -/
def SinkListing.sections (sink : SinkListing) : List Section := [
  ⟨.item ["sinks"], [("name", .text sink.name), ("sink_type", .text sink.form.name)]⟩,
  ⟨.table ["sinks", "params"], sink.params.map fun (key, value) => (key, .text value)⟩]

/-- The section of the levels of a kind. -/
def levelsSection (kind : Kind) (levels : List (String × Level)) : Section :=
  ⟨.table ["categories", kind.name], levels.map fun (key, level) => (key, .text level.name)⟩

/-- The sections of settings.  Without sinks there is an empty list of them. -/
def Listing.sections (l : Listing) : List Section :=
  [⟨.none, ("version", .text version) :: if l.sinks.isEmpty then [("sinks", .emptyList)] else []⟩,
    ⟨.table ["pool"], [
      ("min_workers", .natural l.crew.minWorkers.toNat),
      ("max_workers", .natural l.crew.maxWorkers.toNat),
      ("idle_timeout_secs", .natural l.crew.idleSeconds.toNat),
      ("thread_name_prefix", .text l.crew.namePrefix)]⟩,
    ⟨.table ["flush"], [("interval_ms", .natural l.flushMillis.toNat)]⟩]
  ++ l.sinks.flatMap SinkListing.sections
  ++ Kind.all.map fun kind => levelsSection kind (l.levels kind)

/-- Settings as a TOML document. -/
def Listing.toToml (l : Listing) : String :=
  document l.sections

end ToToml

end Settings

/-- A sink with its parameters in the order of their names. -/
def SinkSettings.listing (sink : SinkSettings) : Settings.SinkListing :=
  ⟨sink.name, sink.form, sink.params.toList⟩

namespace Settings

/-- Settings with all levels and parameters in the order of their keys. -/
def listing (s : Settings) : Listing where
  crew := s.crew
  flushMillis := s.flushMillis
  sinks := s.sinks.map SinkSettings.listing
  levels kind := (s.levels kind).toList

/-- Settings as JSON over several lines. -/
def toJson (s : Settings) : String :=
  s.listing.toJson

/-- Settings as a TOML document. -/
def toToml (s : Settings) : String :=
  s.listing.toToml

end Settings

end TaskLedger
