import TaskLedger.Binary64.Exact
import TaskLedger.Text.Decimal

/-!
# The shortest decimal that reads back

Every `Float` is the nearest one to all the reals of an interval around it; the ends of the interval
belong to it when its `m` is even.  Of the decimals in the interval the one with the fewest digits
is written, and of those the nearest to the value.  Digits are always written out up to the point,
without an exponent, and a whole number has no point.

* `Shortest.interval` is the interval, in units of a quarter of `2 ^ q`;
* `Shortest.decimal?` finds a decimal `n * 10 ^ e` with a given number of digits in it;
* `Shortest.text` writes a `Float`.
-/

namespace TaskLedger.Binary64.Shortest

open TaskLedger.Text

/-- The reals that are nearest to `m * 2 ^ q`, as numbers of units of `2 ^ (q - 2)`.  Below a power
of two the numbers lie twice as close. -/
def interval (m : Nat) (q : Int) : Nat × Nat :=
  if m = Exact.hidden ∧ -1074 < q then (4 * m - 1, 4 * m + 2) else (4 * m - 2, 4 * m + 2)

/-- A real number as a quotient of natural numbers, `mantissa * 2 ^ q` divided by `10 ^ e`. -/
def quotient (mantissa : Nat) (q e : Int) : Nat × Nat :=
  ((mantissa <<< q.toNat) * Decimal.power (-e).toNat, Decimal.power e.toNat <<< (-q).toNat)

/-- Whether `n * 10 ^ e` lies in the interval around `m * 2 ^ q`. -/
def reads (m : Nat) (q e : Int) (n : Nat) : Bool :=
  let low := quotient (interval m q).1 (q - 2) e
  let high := quotient (interval m q).2 (q - 2) e
  if m % 2 = 0 then low.1 ≤ n * low.2 && n * high.2 ≤ high.1
  else low.1 < n * low.2 && n * high.2 < high.1

/-- The multiple of `10 ^ e` that reads back as `m * 2 ^ q`, the nearer one if its two neighbours
do, and of two equally near ones the greater. -/
def decimal? (m : Nat) (q e : Int) : Option Nat :=
  let (num, den) := quotient m q e
  let n := num / den
  match reads m q e n, reads m q e (n + 1) with
  | true, true => some (if 2 * (num % den) < den then n else n + 1)
  | true, false => some n
  | false, true => some (n + 1)
  | false, false => none

/-- The first multiple of a power of ten that reads back, where the exponent falls from `e`. -/
def search (m : Nat) (q : Int) : Nat → Int → Nat × Int
  | 0, e => (0, e)
  | steps + 1, e =>
    match decimal? m q e with
    | some n => (n, e)
    | none => search m q steps (e - 1)

/-- The shortest decimal `n * 10 ^ e` that reads back as a positive `m * 2 ^ q`.  The search starts
above the value and ends at the latest where a binary fraction has an exact decimal. -/
def decimal (m : Nat) (q : Int) : Nat × Int :=
  let start : Int := (Decimal.digits ((m <<< q.toNat) >>> (-q).toNat)).length
  search m q (start + 1100).toNat start

/-- A decimal `n * 10 ^ e` without an exponent. -/
def positional (n : Nat) (e : Int) : String :=
  if 0 ≤ e then Decimal.text (n * Decimal.power e.toNat)
  else
    let places := e.natAbs
    String.ofList (Decimal.digits (n / Decimal.power places) ++ '.'
      :: Decimal.padded places (n % Decimal.power places))

/-- The size of a number `m * 2 ^ q`. -/
def sizeText (m : Nat) (q : Int) : String :=
  if m = 0 then "0" else positional (decimal m q).1 (decimal m q).2

/-- The text of a `Float`. -/
def text (x : Float) : String :=
  (Exact.ofFloat x).textWith sizeText

end TaskLedger.Binary64.Shortest
