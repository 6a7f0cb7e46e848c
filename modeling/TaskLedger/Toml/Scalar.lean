import TaskLedger.Binary64.Reader
import TaskLedger.Instant.Calendar
import TaskLedger.Toml.Tree

/-!
# Numbers, words and moments

A value without quotes or brackets is read from the whole run of characters that it occupies.

* `Scalar.integer?` reads a decimal number with an optional sign, or one in base 16, 8 or 2 without;
* `Scalar.isFraction` recognises a number with a fraction or an exponent;
* `Scalar.moment?` reads a date, a time or both, and gives its usual form.

Between two digits a single underscore may stand.  A decimal number does not begin with zero unless
it is zero.  A number may be written that is out of every range; it is a value of its own, which
only those that look at it find fault with.
-/

namespace TaskLedger.Toml.Scalar

open TaskLedger.Text

/-- Digits with underscores between some of them, without the underscores. -/
def grouped? (isDigit : Char → Bool) : List Char → Option (List Char)
  | [] => none
  | [c] => if isDigit c then some [c] else none
  | c :: '_' :: r => if isDigit c then (grouped? isDigit r).map (c :: ·) else none
  | c :: d :: r => if isDigit c then (grouped? isDigit (d :: r)).map (c :: ·) else none

/-- The digits of a decimal number, which begin with zero only when there is no other digit. -/
def decimalDigits? (cs : List Char) : Option (List Char) :=
  match grouped? Decimal.isDigit cs with
  | some ('0' :: _ :: _) => none
  | ds => ds

/-- A sign, if there is one, and the rest: whether the sign is a minus. -/
def signOf (cs : List Char) : Bool × List Char :=
  match cs with
  | '-' :: r => (true, r)
  | '+' :: r => (false, r)
  | r => (false, r)

/-- The number that digits stand for in a given base. -/
def inBase? (base : Nat) (cs : List Char) : Option Nat :=
  let isDigit (c : Char) : Bool :=
    match Decimal.hexValue? c with
    | some n => n < base
    | none => false
  (grouped? isDigit cs).map fun ds =>
    ds.foldl (fun n d => base * n + (Decimal.hexValue? d).getD 0) 0

/-- Whether a whole number fits into 128 bits, with a sign or without. -/
def isNarrow (i : Int) : Bool :=
  -(Nat.pow 2 127 : Int) ≤ i && i < (Nat.pow 2 128 : Int)

/-- A whole number. -/
def integer? (cs : List Char) : Option Int :=
  match cs with
  | '0' :: 'x' :: r => (inBase? 16 r).map Int.ofNat
  | '0' :: 'o' :: r => (inBase? 8 r).map Int.ofNat
  | '0' :: 'b' :: r => (inBase? 2 r).map Int.ofNat
  | _ =>
    let (negative, r) := signOf cs
    (decimalDigits? r).map fun ds => if negative then -Decimal.value ds else Decimal.value ds

/-- Whether a character begins an exponent. -/
def isExponentMark (c : Char) : Bool :=
  c = 'e' || c = 'E'

/-- Whether a text is an exponent with its letter, or empty. -/
def isExponent (cs : List Char) : Bool :=
  match cs with
  | [] => true
  | c :: r => isExponentMark c && (grouped? Decimal.isDigit (signOf r).2).isSome

/-- Whether a text is a number with a fraction or an exponent or both. -/
def isFraction (cs : List Char) : Bool :=
  let r := (signOf cs).2
  let whole := r.takeWhile fun c => c ≠ '.' && !isExponentMark c
  (decimalDigits? whole).isSome &&
    match r.drop whole.length with
    | [] => false
    | '.' :: r =>
      let places := r.takeWhile fun c => !isExponentMark c
      (grouped? Decimal.isDigit places).isSome && isExponent (r.drop places.length)
    | r => isExponent r

/-- Whether a number with a fraction or an exponent has a finite value. -/
def isFinite (cs : List Char) : Bool :=
  match Binary64.ofText? (String.ofList (cs.filter (· ≠ '_'))) with
  | some x => x.isFinite
  | none => false

/-- Whether a text is one of the words that are values. -/
def isWord (cs : List Char) : Bool :=
  cs = "true".toList || cs = "false".toList || (signOf cs).2 = "inf".toList
    || (signOf cs).2 = "nan".toList

/-- A number of exactly `width` digits. -/
def fixed? (width : Nat) (cs : List Char) : Option (Nat × List Char) :=
  let ds := cs.take width
  if ds.length = width ∧ ds.all Decimal.isDigit then some (Decimal.value ds, cs.drop width)
  else none

/-- What follows a given character. -/
def after? (c : Char) (cs : List Char) : Option (List Char) :=
  match cs with
  | d :: r => if d = c then some r else none
  | [] => none

/-- A date at the head of a text, in its usual form, and the rest. -/
def date? (cs : List Char) : Option (List Char × List Char) := do
  let (year, r) ← fixed? 4 cs
  let (month, r) ← fixed? 2 (← after? '-' r)
  let (day, r) ← fixed? 2 (← after? '-' r)
  if Date.isReal ⟨year, month, day⟩ then some (cs.take 10, r) else none

/-- The fraction of a second in its usual form: at most nine digits, no zeros at the end, and
nothing if no digit is left. -/
def fractionText (ds : List Char) : List Char :=
  let kept := ((ds.take 9).reverse.dropWhile (· = '0')).reverse
  if kept.isEmpty then [] else '.' :: kept

/-- Seconds and their fraction in their usual form, and the rest; a time without them is on the
minute. -/
def seconds? (cs : List Char) : Option (List Char × List Char) :=
  match cs with
  | ':' :: r => do
    let (second, rest) ← fixed? 2 r
    if 60 < second then none
    else match rest with
      | '.' :: places =>
        let ds := places.takeWhile Decimal.isDigit
        if ds.isEmpty then none
        else some (':' :: r.take 2 ++ fractionText ds, places.drop ds.length)
      | _ => some (':' :: r.take 2, rest)
  | _ => some ([':', '0', '0'], cs)

/-- A time of day at the head of a text, in its usual form, and the rest. -/
def time? (cs : List Char) : Option (List Char × List Char) := do
  let (hour, r) ← fixed? 2 cs
  let (minute, r) ← fixed? 2 (← after? ':' r)
  if 23 < hour ∨ 59 < minute then none
  else (seconds? r).map fun p => (cs.take 5 ++ p.1, p.2)

/-- An offset from Universal Time that is the whole rest of a text, in its usual form. -/
def offset? (cs : List Char) : Option (List Char) :=
  match cs with
  | [] => some []
  | ['Z'] => some ['Z']
  | ['z'] => some ['Z']
  | sign :: r => do
    let (hour, rest) ← fixed? 2 r
    let (minute, rest) ← fixed? 2 (← after? ':' rest)
    if (sign ≠ '+' ∧ sign ≠ '-') ∨ 23 < hour ∨ 59 < minute ∨ !rest.isEmpty then none
    else some ((if hour = 0 ∧ minute = 0 then '+' else sign) :: r)

/-- Whether a character stands between a date and a time. -/
def isDivider (c : Char) : Bool :=
  c = 'T' || c = 't' || c = ' '

/-- A date, a time or both in their usual form. -/
def moment? (cs : List Char) : Option String :=
  match date? cs with
  | some (date, []) => some (String.ofList date)
  | some (date, c :: r) =>
    if isDivider c then do
      let (time, rest) ← time? r
      let offset ← offset? rest
      some (String.ofList (date ++ 'T' :: time ++ offset))
    else none
  | none =>
    match time? cs with
    | some (time, []) => some (String.ofList time)
    | _ => none

/-- The value of a whole run of characters. -/
def ofRun? (cs : List Char) : Option Scalar :=
  match integer? cs with
  | some i => some (if isNarrow i then .integer i else .beyond)
  | none =>
    if isWord cs then some .other
    else if isFraction cs then some (if isFinite cs then .other else .beyond)
    else (moment? cs).map .moment

/-- Whether a character ends a value without quotes. -/
def isStop (c : Char) : Bool :=
  [' ', '\t', '\n', '\r', '#', ',', '=', '[', ']', '\x7b', '\x7d', '"', '\''].contains c

/-- A value without quotes at the head of a text.  A date and a time with one space between them are
one value. -/
def read? (cs : List Char) : Option (Scalar × List Char) :=
  let run := cs.takeWhile fun c => !isStop c
  let rest := cs.dropWhile fun c => !isStop c
  let isDate := match date? run with
    | some (_, []) => true
    | _ => false
  let longer := match rest with
    | ' ' :: d :: _ => isDate && Decimal.isDigit d
    | _ => false
  if longer then
    let more := (rest.drop 1).takeWhile fun c => !isStop c
    (ofRun? (run ++ ' ' :: more)).map fun value => (value, rest.drop (1 + more.length))
  else (ofRun? run).map fun value => (value, rest)

end TaskLedger.Toml.Scalar
