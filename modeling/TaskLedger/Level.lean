import Std.Data.TreeMap
import TaskLedger.Json.Compound

/-!
# Levels of detail

How much of a record is shipped is set for its class.  The levels are ordered; the lowest one ships
nothing.
-/

namespace TaskLedger

/-- How much of the records of a class is shipped: nothing at all, the record, the record with the
parameters or with the result of the task, or everything. -/
inductive Level where
  | nothing
  | record
  | withParam
  | withResult
  | everything
  deriving DecidableEq, Repr

namespace Level

/-- The levels from the lowest to the highest. -/
def all : List Level := [nothing, record, withParam, withResult, everything]

/-- How many levels are lower. -/
def rank : Level → Nat
  | nothing => 0
  | record => 1
  | withParam => 2
  | withResult => 3
  | everything => 4

/-- The name of a level in settings. -/
def name : Level → String
  | nothing => "none"
  | record => "record"
  | withParam => "record_with_param"
  | withResult => "record_with_result"
  | everything => "record_all"

/-- The name of a level in a listing. -/
def title : Level → String
  | nothing => "None"
  | record => "Record"
  | withParam => "RecordWithParam"
  | withResult => "RecordWithResult"
  | everything => "RecordAll"

/-- The level with a given name. -/
def ofName? (s : String) : Option Level :=
  all.find? (·.name == s)

/-- Whether records of this level are shipped. -/
def ships (l : Level) : Bool :=
  0 < l.rank

/-- Reads the name of a level. -/
def reader {ε : Type} : Json.Reader ε Level :=
  Json.variant ofName?

theorem ofName?_name (l : Level) : ofName? l.name = some l := by
  cases l <;> decide

theorem ships_eq_false_iff {l : Level} : l.ships = false ↔ l = nothing := by
  cases l <;> decide

end Level

/-- The levels that are set, by class. -/
abbrev Levels := Std.TreeMap String Level

end TaskLedger
