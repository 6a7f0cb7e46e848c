import Mathlib.Data.List.TakeWhile
import TaskLedger.Selection

/-!
# Which records are asked for

A record is asked for when its class is blank, has no level, or has one above the lowest.
`Lookup.ship_iff_asks` says that exactly these are shipped.
-/

namespace TaskLedger

/-- A text without the blank characters at either end. -/
def Text.trim (cs : List Char) : List Char :=
  (trimStart (trimStart cs).reverse).reverse

theorem Text.trimStart_eq_nil_iff {cs : List Char} :
    trimStart cs = [] ↔ ∀ c ∈ cs, isBlank c = true :=
  List.dropWhile_eq_nil_iff

/-- Nothing is left of a text exactly if all of it is blank. -/
theorem Text.trim_eq_nil_iff {cs : List Char} : trim cs = [] ↔ ∀ c ∈ cs, isBlank c = true := by
  rw [trim, List.reverse_eq_nil_iff, trimStart_eq_nil_iff]
  constructor
  · intro rest c hc
    rw [← List.takeWhile_append_dropWhile (p := isBlank) (l := cs)] at hc
    rcases List.mem_append.1 hc with front | back
    · exact List.mem_takeWhile_imp front
    · exact rest c (List.mem_reverse.2 back)
  · intro all c hc
    exact all c ((List.dropWhile_sublist _).subset (List.mem_reverse.1 hc))

theorem Text.isBlankText_iff {s : String} : isBlankText s = true ↔ trim s.toList = [] := by
  rw [isBlankText, List.all_eq_true, trim_eq_nil_iff]

namespace Lookup

/-- Records of a class are asked for: it is blank, has no level, or has one above the lowest. -/
def Asks (lookup : Lookup) (taskClass : String) : Prop :=
  Text.trim taskClass.toList = [] ∨ lookup taskClass = none ∨
    ∃ level, lookup taskClass = some level ∧ Level.nothing.rank < level.rank

theorem ship_iff_asks {lookup : Lookup} {taskClass : String} :
    lookup.ship taskClass = true ↔ lookup.Asks taskClass := by
  rw [ship, Asks, Bool.or_eq_true, Text.isBlankText_iff]
  refine or_congr Iff.rfl ?_
  cases lookup taskClass with
  | none => simp
  | some level =>
    have above : level.ships = true ↔ Level.nothing.rank < level.rank := decide_eq_true_iff
    simp [above]

instance (lookup : Lookup) (taskClass : String) : Decidable (lookup.Asks taskClass) :=
  decidable_of_iff _ ship_iff_asks

/-- Exactly the records are shipped that are asked for. -/
theorem select_eq_filter (lookup : Lookup) {k : Kind} (records : List (Record k)) :
    lookup.select records = records.filter fun r => lookup.Asks r.taskClass := by
  refine List.filter_congr fun r _ => ?_
  rw [Bool.eq_iff_iff, ship_iff_asks, decide_eq_true_iff]

end Lookup

end TaskLedger
