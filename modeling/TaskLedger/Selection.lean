import TaskLedger.Level
import TaskLedger.Outcome.Batch
import TaskLedger.Text.Blank

/-!
# Which records are shipped

A record is left out only when the level of its class is set, and set to nothing.  A class that is
blank has no level: its records are always shipped.
-/

namespace TaskLedger

/-- The level of a class, if one is set. -/
abbrev Lookup := String → Option Level

namespace Lookup

/-- Whether records of a class are shipped. -/
def ship (lookup : Lookup) (taskClass : String) : Bool :=
  Text.isBlankText taskClass ||
    match lookup taskClass with
    | some level => level.ships
    | none => true

/-- The records that are shipped, in their order. -/
def select (lookup : Lookup) {k : Kind} (records : List (Record k)) : List (Record k) :=
  records.filter fun r => lookup.ship r.taskClass

theorem select_append (lookup : Lookup) {k : Kind} (rs ss : List (Record k)) :
    lookup.select (rs ++ ss) = lookup.select rs ++ lookup.select ss :=
  List.filter_append ..

end Lookup

namespace Levels

/-- The levels that are set, as they are looked up. -/
def lookup (levels : Levels) : Lookup := fun taskClass => levels[taskClass]?

/-- Whether records of a class are shipped. -/
def ship (levels : Levels) (taskClass : String) : Bool :=
  levels.lookup.ship taskClass

/-- The records that are shipped, in their order. -/
def select (levels : Levels) {k : Kind} (records : List (Record k)) : List (Record k) :=
  levels.lookup.select records

end Levels

end TaskLedger
