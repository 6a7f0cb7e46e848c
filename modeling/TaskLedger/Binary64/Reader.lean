import TaskLedger.Text.Decimal

/-!
# Reading floating point numbers

A number is a sign, digits with at most one point among them, and an exponent after `e` or `E`; at
least one digit stands before the exponent.  In place of the digits `inf`, `infinity` and `nan` may
stand, in any case.  The value is the `Float` nearest to the decimal, the even one of two.
-/

namespace TaskLedger.Binary64

open TaskLedger.Text

/-- The `Float` nearest to `m * 10 ^ e`.  Exponents far outside the range of finite numbers are
decided by the number of digits alone. -/
def ofDecimal (m : Nat) (e : Int) : Float :=
  let top := (Decimal.digits m).length + e
  if m = 0 ∨ top < -400 then 0
  else if 400 < top then 1.0 / 0.0
  else Float.ofScientific m (e < 0) e.natAbs

/-- A plain number: its digits as one number, and how many of them stand after the point. -/
def significand? (cs : List Char) : Option ((Nat × Nat) × List Char) :=
  let (whole, rest) := Decimal.digitsOf cs
  let (places, rest) := match rest with
    | '.' :: r => Decimal.digitsOf r
    | r => ([], r)
  if whole.isEmpty && places.isEmpty then none
  else some ((Decimal.value (whole ++ places), places.length), rest)

/-- The number in an exponent, a sign allowed in front. -/
def exponent? (cs : List Char) : Option Int :=
  let (sign, ds) : Int × List Char := match cs with
    | '-' :: r => (-1, r)
    | '+' :: r => (1, r)
    | r => (1, r)
  if ds.isEmpty || !ds.all Decimal.isDigit then none else some (sign * Decimal.value ds)

/-- The size of a number, or one of the words for infinity and for no number. -/
def size? (cs : List Char) : Option Float :=
  let word := cs.map Char.toLower
  if word = "inf".toList ∨ word = "infinity".toList then some (1.0 / 0.0)
  else if word = "nan".toList then some (0.0 / 0.0)
  else match significand? cs with
    | none => none
    | some ((m, places), []) => some (ofDecimal m (-places))
    | some ((m, places), c :: r) =>
      if c = 'e' ∨ c = 'E' then (exponent? r).map fun e => ofDecimal m (e - places) else none

/-- The `Float` that a whole text stands for. -/
def ofText? (s : String) : Option Float :=
  match s.toList with
  | '-' :: r => (size? r).map Float.neg
  | '+' :: r => size? r
  | r => size? r

end TaskLedger.Binary64
