import TaskLedger.Binary64.Exact
import TaskLedger.Text.Decimal

/-!
# A fixed number of places

`Fixed.text places x` writes the exact value of a `Float` with a fixed number of digits after the
point.  The value is rounded to the nearest such decimal; a value half-way between two of them goes
to the one with an even last digit.
-/

namespace TaskLedger.Binary64.Fixed

open TaskLedger.Text

/-- The whole number nearest to `num / den`, the even one if two are equally near. -/
def roundDiv (num den : Nat) : Nat :=
  let low := num / den
  let twice := 2 * (num % den)
  if twice < den ∨ (twice = den ∧ low % 2 = 0) then low else low + 1

/-- The whole number nearest to `m * 2 ^ q * scale`. -/
def scaled (m : Nat) (q : Int) (scale : Nat) : Nat :=
  if 0 ≤ q then (m <<< q.toNat) * scale else roundDiv (m * scale) (1 <<< q.natAbs)

/-- The text of a whole number of units of the last place. -/
def placesText (places units : Nat) : String :=
  String.ofList (Decimal.digits (units / Decimal.power places) ++ '.'
    :: Decimal.padded places (units % Decimal.power places))

/-- The text of a `Float` with `places` digits after the point. -/
def text (places : Nat) (x : Float) : String :=
  (Exact.ofFloat x).textWith fun m q => placesText places (scaled m q (Decimal.power places))

example : roundDiv 5 2 = 2 ∧ roundDiv 7 2 = 4 := by decide

end TaskLedger.Binary64.Fixed
