/-!
# Whole numbers in 64 bits

Sums of durations and totals in a store are kept in 64 bits with a sign.  Where a sum leaves that
range, `Signed64.saturate` stays at its end, and `Signed64.add?` has no answer.  Inside the range
both are the sum itself.  `Signed64.sum?` adds up a list.
-/

namespace TaskLedger.Signed64

/-- The least number. -/
def least : Int := -9223372036854775808

/-- The greatest number. -/
def greatest : Int := 9223372036854775807

/-- Whether a number fits. -/
def Fits (i : Int) : Prop :=
  least ≤ i ∧ i ≤ greatest

instance (i : Int) : Decidable (Fits i) :=
  inferInstanceAs (Decidable (_ ∧ _))

/-- The number in range that is nearest. -/
def saturate (i : Int) : Int :=
  max least (min greatest i)

/-- The sum of two numbers, if it fits. -/
def add? (i j : Int) : Option Int :=
  if Fits (i + j) then some (i + j) else none

/-- The sum of some numbers, added one after another, if it fits all the way. -/
def sum? (is : List Int) : Option Int :=
  is.foldlM add? 0

theorem fits_saturate (i : Int) : Fits (saturate i) := by
  simp only [Fits, saturate, least, greatest]
  omega

theorem saturate_of_fits {i : Int} (h : Fits i) : saturate i = i := by
  simp only [Fits, saturate, least, greatest] at *
  omega

theorem fits_zero : Fits 0 :=
  ⟨by decide, by decide⟩

theorem add?_eq_some_iff {i j sum : Int} : add? i j = some sum ↔ Fits (i + j) ∧ i + j = sum := by
  simp [add?]

theorem add?_eq_none_iff {i j : Int} : add? i j = none ↔ ¬ Fits (i + j) := by
  simp [add?]

end TaskLedger.Signed64
