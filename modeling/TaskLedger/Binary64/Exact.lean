/-!
# Binary floating point numbers, exactly

A `Float` is a number `± m * 2 ^ q` with `m` below `2 ^ 53`, an infinity or no number at all.

* `Exact.ofFloat` reads this off the bits;
* `Exact.textWith` writes it, given how sizes are written.
-/

namespace TaskLedger.Binary64

/-- What the bits of a `Float` stand for: the result of an operation that has none, an infinity, or
the number `m * 2 ^ q` or its opposite. -/
inductive Exact where
  | nan
  | infinite (negative : Bool)
  | finite (negative : Bool) (m : Nat) (q : Int)
  deriving DecidableEq

namespace Exact

/-- The bit that is not written, `2 ^ 52`: the least `m` of all but the smallest numbers. -/
def hidden : Nat := 1 <<< 52

/-- The reading of 64 bits: a sign, eleven bits of exponent and 52 bits of fraction. -/
def ofBits (bits : Nat) : Exact :=
  let negative := (bits >>> 63) % 2 == 1
  let exponent := (bits >>> 52) % 2048
  let fraction := bits % hidden
  if exponent = 2047 then (if fraction = 0 then infinite negative else nan)
  else if exponent = 0 then finite negative fraction (-1074)
  else finite negative (hidden + fraction) ((exponent : Int) - 1075)

/-- The exact value of a `Float`. -/
def ofFloat (x : Float) : Exact :=
  ofBits x.toBits.toNat

example : ofBits 0x3ff0000000000000 = finite false hidden (-52) := by decide
example : ofBits 0x8000000000000001 = finite true 1 (-1074) := by decide

end Exact

/-- The text of a number with the given sign, whose size is written by `write`. -/
def signed (negative : Bool) (size : String) : String :=
  if negative then "-" ++ size else size

/-- The text of a value whose finite sizes `m * 2 ^ q` are written by `write`. -/
def Exact.textWith (write : Nat → Int → String) : Exact → String
  | .nan => "NaN"
  | .infinite negative => signed negative "inf"
  | .finite negative m q => signed negative (write m q)

end TaskLedger.Binary64
