/-!
# Decimal numbers in texts

Natural numbers are written with the digits `0` to `9` and no leading zero; `padded` fills up with
zeros on the left.  Reading goes from left to right:

* `Decimal.digitsOf` cuts the longest run of digits off a text;
* `Decimal.value` is the number that a run of digits stands for;
* `Decimal.upTo?` reads a number of a limited number of digits off the head of a text;
* `Decimal.natural?` reads a whole text as a number below a bound, a plus sign allowed in front.
-/

namespace TaskLedger.Text.Decimal

/-- Whether a character is one of the ten ASCII digits. -/
def isDigit (c : Char) : Bool :=
  '0' ≤ c && c ≤ '9'

/-- What an ASCII digit counts. -/
def digitValue (c : Char) : Nat :=
  c.toNat - '0'.toNat

/-- The longest run of digits at the head of a text, and the rest. -/
def digitsOf (cs : List Char) : List Char × List Char :=
  (cs.takeWhile isDigit, cs.dropWhile isDigit)

/-- The number that a run of digits stands for. -/
def value (ds : List Char) : Nat :=
  ds.foldl (fun n d => 10 * n + digitValue d) 0

/-- Ten to the power of `n`. -/
def power (n : Nat) : Nat :=
  Nat.pow 10 n

/-- The digits of a natural number, without leading zeros. -/
def digits (n : Nat) : List Char :=
  Nat.toDigits 10 n

/-- The text of a natural number. -/
def text (n : Nat) : String :=
  String.ofList (digits n)

/-- The text of a whole number: a minus sign in front of a negative one. -/
def signedText (i : Int) : String :=
  if i < 0 then "-" ++ text i.natAbs else text i.natAbs

/-- The digits of a number, filled up with zeros on the left to at least `width`. -/
def padded (width n : Nat) : List Char :=
  List.replicate (width - (digits n).length) '0' ++ digits n

/-- The number made of the first digits of a text, at least one and at most `most`, and the rest. -/
def upTo? (most : Nat) (cs : List Char) : Option (Nat × List Char) :=
  let ds := (cs.takeWhile isDigit).take most
  if ds.isEmpty then none else some (value ds, cs.drop ds.length)

/-- A whole text as a number below `bound`: digits, with at most one plus sign in front. -/
def natural? (bound : Nat) (s : String) : Option Nat :=
  let body := match s.toList with
    | '+' :: r => r
    | r => r
  if body.isEmpty || !body.all isDigit then none
  else if value body < bound then some (value body) else none

/-- A whole text as a number from 0 up to below `bound`, either sign allowed in front: a minus sign
is accepted before zero only. -/
def signed? (bound : Nat) (s : String) : Option Nat :=
  match s.toList with
  | '-' :: r => (natural? 1 (String.ofList ('+' :: r)))
  | _ => natural? bound s

/-- What a hexadecimal digit counts. -/
def hexValue? (c : Char) : Option Nat :=
  if isDigit c then some (digitValue c)
  else if 'a' ≤ c && c ≤ 'f' then some (c.toNat - 'a'.toNat + 10)
  else if 'A' ≤ c && c ≤ 'F' then some (c.toNat - 'A'.toNat + 10)
  else none

/-- The number that a run of hexadecimal digits stands for, if all of them are. -/
def hexNumber? (ds : List Char) : Option Nat :=
  ds.foldl (fun n d => n.bind fun n => (hexValue? d).map (16 * n + ·)) (some 0)

/-- The hexadecimal digits of a number in lower case, filled up with zeros to at least `width`. -/
def hexPadded (width n : Nat) : List Char :=
  List.replicate (width - (Nat.toDigits 16 n).length) '0' ++ Nat.toDigits 16 n

end TaskLedger.Text.Decimal
