import TaskLedger.Settings.Basic

/-!
# Limits of a crew

How many workers a crew may have, how many of them stay when there is nothing to do, and how long
the others wait for work.  `Limits.ofWish` makes limits of any wish: at least one worker may be
there, not more stay than may be there, and nobody leaves in less than a millisecond.

How long a worker waits says nothing of when others look at the crew.  So whoever makes limits also
says whether workers that may leave have left by then; everything that is proved of crews holds
either way.

What the names of workers begin with is no part of the limits.  It is taken that a worker can be
started whenever one is to be: no crew meets a system without room for one more thread, or a name
that no thread may have.
-/

namespace TaskLedger

/-- How large a crew is: how many workers stay, how many there may be, how many milliseconds the
others wait for work (for ever if there is no number), and whether they are restless, that is, gone
whenever somebody looks at the crew. -/
structure Limits where
  least : Nat
  most : Nat
  patience : Option Nat
  restless : Bool
  most_pos : 1 ≤ most
  least_le_most : least ≤ most
  patience_pos : ∀ millis ∈ patience, 1 ≤ millis

namespace Limits

/-- The limits that come nearest to a wish. -/
def ofWish (least most : Nat) (patience : Option Nat) (restless : Bool := false) : Limits where
  least := min least (max most 1)
  most := max most 1
  patience := patience.map (max · 1)
  restless
  most_pos := Nat.le_max_right ..
  least_le_most := Nat.min_le_right ..
  patience_pos := by
    intro millis h
    obtain ⟨wish, -, rfl⟩ := Option.map_eq_some_iff.1 h
    exact Nat.le_max_right ..

/-- The limits that settings ask for. -/
def ofSettings (crew : CrewSettings) (restless : Bool := false) : Limits :=
  ofWish crew.minWorkers.toNat crew.maxWorkers.toNat (some (crew.idleSeconds.toNat * 1000)) restless

end Limits

end TaskLedger
