import TaskLedger.Json.Quoted

/-!
# Words, numbers and texts

The readers of single values.  A value of another form than the one asked for is a mismatch, but
only once it has been read as far as its form needs:

* `word` reads one of the fixed words;
* `number` reads a number, and tells whether it is a natural number;
* `rejected` is the fault of a value that has the wrong form;
* `natural`, `text` and `optional` are the readers for values of one form.

A number that is infinite in binary floating point is malformed wherever a number is read.
-/

namespace TaskLedger.Json

open TaskLedger.Text

variable {ε : Type}

/-- Reads the given letters. -/
def word : List Char → List Char → Except (Fault ε) (List Char)
  | [], cs => .ok cs
  | _ :: _, [] => .error .eof
  | c :: w, d :: r => if c = d then word w r else .error .malformed

/-- The bound below which the leading digits of a number are kept. -/
def significandBound : Nat := UInt64.size

/-- Digits added to a significand as long as it stays below the bound, and how many were. -/
def addDigits (n : Nat) (ds : List Char) : Nat × Nat :=
  match ds with
  | [] => (n, 0)
  | d :: r =>
    let m := 10 * n + Decimal.digitValue d
    if m < significandBound then ((addDigits m r).1, (addDigits m r).2 + 1) else (n, 0)

/-- Whether the product of a significand and a power of ten is infinite as a `Float`. -/
def isInfinite (significand : Nat) (exponent : Int) : Bool :=
  significand ≠ 0 && 0 ≤ exponent
    && (309 ≤ exponent
      || (significand.toUInt64.toFloat * Float.ofScientific 1 false exponent.toNat).isInf)

/-- The digits of an exponent whose letter has been read, with its sign. -/
def exponent (cs : List Char) : Except (Fault ε) (Int × List Char) :=
  let (sign, r) : Int × List Char := match cs with
    | '+' :: r => (1, r)
    | '-' :: r => (-1, r)
    | r => (1, r)
  let (ds, rest) := Decimal.digitsOf r
  if ds.isEmpty then .error (unexpected rest) else .ok (sign * Decimal.value ds, rest)

/-- The digits before the point: zero alone, or digits that do not begin with it. -/
def wholeDigits (cs : List Char) : Except (Fault ε) (List Char × List Char) :=
  match Decimal.digitsOf cs with
  | ([], rest) => .error (unexpected rest)
  | ('0' :: _ :: _, _) => .error .malformed
  | p => .ok p

/-- The digits after a point, if there is a point. -/
def fractionDigits (cs : List Char) :
    Except (Fault ε) (Option (List Char) × List Char) :=
  match cs with
  | '.' :: r =>
    match Decimal.digitsOf r with
    | ([], rest) => .error (unexpected rest)
    | (ds, rest) => .ok (some ds, rest)
  | r => .ok (none, r)

/-- An exponent, if there is one. -/
def exponent? (cs : List Char) : Except (Fault ε) (Option Int × List Char) :=
  match cs with
  | c :: r =>
    if c = 'e' ∨ c = 'E' then (exponent r).map fun p => (some p.1, p.2) else .ok (none, cs)
  | [] => .ok (none, [])

/-- A number without its sign: its value if it has neither point nor exponent and is below the
bound of significands. -/
def magnitude (cs : List Char) : Except (Fault ε) (Option Nat × List Char) := do
  let (whole, cs) ← wholeDigits cs
  let (places, cs) ← fractionDigits cs
  let (power, cs) ← exponent? cs
  let (head, kept) := addDigits 0 whole
  let (significand, added) := addDigits head (places.getD [])
  let exponent := power.getD 0 + (whole.length - kept : Nat) - added
  if kept = whole.length ∧ places.isNone ∧ power.isNone then .ok (some head, cs)
  else if isInfinite significand exponent then .error .malformed
  else .ok (none, cs)

/-- A number: its value if it is a natural number in range, written without sign. -/
def number (cs : List Char) : Except (Fault ε) (Option Nat × List Char) :=
  match cs with
  | '-' :: r => (magnitude r).map fun p => (none, p.2)
  | r => magnitude r

/-- Whether a number begins with a character. -/
def beginsNumber (c : Char) : Bool :=
  c = '-' || Decimal.isDigit c

/-- The letters after the first one of the words that are values. -/
def wordTail? (c : Char) : Option (List Char) :=
  if c = 'n' then some ['u', 'l', 'l']
  else if c = 't' then some ['r', 'u', 'e']
  else if c = 'f' then some ['a', 'l', 's', 'e']
  else none

/-- The mismatch that follows a value read to its end, or the fault that was met in it. -/
def mismatchAfter {α : Type} : Except (Fault ε) α → Fault ε
  | .ok _ => .mismatch none
  | .error fault => fault

/-- The fault of a value whose form is not the one asked for. -/
def rejected (cs : List Char) : Fault ε :=
  match cs with
  | [] => .eof
  | c :: r =>
    match wordTail? c with
    | some tail => mismatchAfter (word tail r)
    | none =>
      if beginsNumber c then mismatchAfter (number (ε := ε) cs)
      else if c = '"' then mismatchAfter (Quoted.body (ε := ε) r)
      else if c = '[' ∨ c = '{' then .mismatch none
      else .malformed

/-- A natural number below `bound`. -/
def natural (bound : Nat) : Reader ε Nat := fun cs =>
  match skipGap cs with
  | c :: r =>
    if beginsNumber c then
      match number (c :: r) with
      | .ok (some n, rest) => if n < bound then .ok (n, rest) else .error (.mismatch none)
      | .ok (none, _) => .error (.mismatch none)
      | .error fault => .error fault
    else .error (rejected (c :: r))
  | [] => .error .eof

/-- A quoted text. -/
def text : Reader ε String := fun cs =>
  match skipGap cs with
  | '"' :: r => Quoted.body r
  | r => .error (rejected r)

/-- The word `null`, or a value. -/
def optional {α : Type} (read : Reader ε α) : Reader ε (Option α) := fun cs =>
  match skipGap cs with
  | 'n' :: r => (word ['u', 'l', 'l'] r).map fun rest => (none, rest)
  | r => (read r).map fun p => (some p.1, p.2)

/-- The word `null`. -/
def null : Reader ε Unit := fun cs =>
  match skipGap cs with
  | 'n' :: r => (word ['u', 'l', 'l'] r).map fun rest => ((), rest)
  | r => .error (rejected r)

/-- A value that is read and then made into another one, or does not fit. -/
def refine {α β : Type} (read : Reader ε α) (fit : α → Except (Option ε) β) :
    Reader ε β := fun cs =>
  match read cs with
  | .error fault => .error fault
  | .ok (a, rest) =>
    match fit a with
    | .ok b => .ok (b, rest)
    | .error cause => .error (.mismatch cause)

end TaskLedger.Json
