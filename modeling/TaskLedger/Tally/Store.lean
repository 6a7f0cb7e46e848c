import Std.Data.TreeMap
import TaskLedger.Signed64

/-!
# Totals by name

A store adds up what is written under each name, and counts how often something was written.  It has
64 bits for a total.

* `Store.add?` adds an amount, and refuses it where the sum does not fit: whoever writes it unwinds,
  and the store stays as it is;
* `Store.addAll` adds amounts one after another up to the first one that is refused, and
  `Store.takes` tells whether none is.
-/

namespace TaskLedger

/-- The total of every name that was written, and how often something was written. -/
structure Store where
  totals : Std.TreeMap String Int
  calls : Nat

namespace Store

/-- A store in which nothing was written. -/
def empty : Store := ⟨∅, 0⟩

/-- The total under a name that was written. -/
def get? (s : Store) (name : String) : Option Int :=
  s.totals[name]?

/-- The total under a name, zero if it was never written. -/
def total (s : Store) (name : String) : Int :=
  (s.get? name).getD 0

/-- Adds to the total under a name, if the sum fits. -/
def add? (s : Store) (name : String) (delta : Int) : Option Store :=
  (Signed64.add? (s.total name) delta).map fun total =>
    { totals := s.totals.insert name total, calls := s.calls + 1 }

/-- Adds amounts one after another, up to the first one that is refused. -/
def addAll (s : Store) : List (String × Int) → Store
  | [] => s
  | (name, delta) :: entries =>
    match s.add? name delta with
    | some next => next.addAll entries
    | none => s

/-- Whether none of some amounts is refused when they are added one after another. -/
def takes (s : Store) : List (String × Int) → Bool
  | [] => true
  | (name, delta) :: entries =>
    match s.add? name delta with
    | some next => next.takes entries
    | none => false

/-- All names and their totals in the order of the names. -/
def toList (s : Store) : List (String × Int) :=
  s.totals.toList

@[simp] theorem get?_empty (name : String) : empty.get? name = none := by
  simp [empty, get?]

@[simp] theorem total_empty (name : String) : empty.total name = 0 := by
  simp [total]

theorem add?_eq_none_iff {s : Store} {name : String} {delta : Int} :
    s.add? name delta = none ↔ ¬ Signed64.Fits (s.total name + delta) := by
  rw [add?, Option.map_eq_none_iff, Signed64.add?_eq_none_iff]

/-- An amount that is added replaces the total under its name, and counts as a call. -/
theorem of_add? {s next : Store} {name : String} {delta : Int}
    (added : s.add? name delta = some next) :
    Signed64.Fits (s.total name + delta) ∧
      next = { totals := s.totals.insert name (s.total name + delta), calls := s.calls + 1 } := by
  obtain ⟨total, sum, rfl⟩ := Option.map_eq_some_iff.1 added
  obtain ⟨fits, rfl⟩ := Signed64.add?_eq_some_iff.1 sum
  exact ⟨fits, rfl⟩

theorem get?_of_add? {s next : Store} {name : String} {delta : Int}
    (added : s.add? name delta = some next) (other : String) :
    next.get? other = if name = other then some (s.total name + delta) else s.get? other := by
  obtain ⟨-, rfl⟩ := of_add? added
  simp only [get?, Std.TreeMap.getElem?_insert, Std.compare_eq_iff_eq]

theorem total_of_add? {s next : Store} {name : String} {delta : Int}
    (added : s.add? name delta = some next) (other : String) :
    next.total other = if name = other then s.total name + delta else s.total other := by
  rw [total, get?_of_add? added]
  split
  · rfl
  · rfl

theorem calls_of_add? {s next : Store} {name : String} {delta : Int}
    (added : s.add? name delta = some next) : next.calls = s.calls + 1 := by
  obtain ⟨-, rfl⟩ := of_add? added
  rfl

theorem addAll_cons_of_some {s next : Store} {entry : String × Int}
    (added : s.add? entry.1 entry.2 = some next) (entries : List (String × Int)) :
    s.addAll (entry :: entries) = next.addAll entries := by
  rw [addAll, added]

theorem addAll_cons_of_none {s : Store} {entry : String × Int}
    (refused : s.add? entry.1 entry.2 = none) (entries : List (String × Int)) :
    s.addAll (entry :: entries) = s := by
  rw [addAll, refused]

theorem takes_cons_of_some {s next : Store} {entry : String × Int}
    (added : s.add? entry.1 entry.2 = some next) (entries : List (String × Int)) :
    s.takes (entry :: entries) = next.takes entries := by
  rw [takes, added]

theorem takes_cons_of_none {s : Store} {entry : String × Int}
    (refused : s.add? entry.1 entry.2 = none) (entries : List (String × Int)) :
    s.takes (entry :: entries) = false := by
  rw [takes, refused]

end Store

end TaskLedger
