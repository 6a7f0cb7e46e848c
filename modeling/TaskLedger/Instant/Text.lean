import TaskLedger.Instant.Basic
import TaskLedger.Text.Blank
import TaskLedger.Text.Decimal

/-!
# Instants as texts

An instant is written as `2024-05-01T10:00:00.250Z`: always in Universal Time, years outside 0 to
9999 with a sign, and the fraction with as few of 0, 3, 6 or 9 digits as it needs.  A leap second is
second 60 of its minute.

Reading is more lenient:

* a field may have fewer digits and blank characters in front of it;
* `T`, `t` or a space divides date and time;
* digits of the fraction after the ninth are dropped;
* the offset is `Z`, `z`, the letters `UTC` in any case, or a sign with hours and minutes.
-/

namespace TaskLedger.Date

open TaskLedger.Text

/-- The year of a date: four digits from 0 to 9999, else a sign and at least four digits. -/
def yearText (year : Int) : List Char :=
  if 0 ≤ year ∧ year ≤ 9999 then Decimal.padded 4 year.toNat
  else (if year < 0 then '-' else '+') :: Decimal.padded 4 year.natAbs

/-- The characters of a date's text. -/
def chars (date : Date) : List Char :=
  yearText date.year ++ '-' :: Decimal.padded 2 date.month ++ '-' :: Decimal.padded 2 date.day

/-- A date as text. -/
def text (date : Date) : String :=
  String.ofList date.chars

end TaskLedger.Date

namespace TaskLedger.Instant

open TaskLedger.Text

/-- The fraction of a second: as few of 0, 3, 6 or 9 digits as keep it exact. -/
def fractionText (nano : Nat) : List Char :=
  if nano = 0 then []
  else if nano % 1000000 = 0 then '.' :: Decimal.padded 3 (nano / 1000000)
  else if nano % 1000 = 0 then '.' :: Decimal.padded 6 (nano / 1000)
  else '.' :: Decimal.padded 9 nano

/-- The characters of an instant's text. -/
def chars (t : Instant) : List Char :=
  t.date.chars ++ 'T' :: Decimal.padded 2 (t.second / 3600)
    ++ ':' :: Decimal.padded 2 (t.second / 60 % 60)
    ++ ':' :: Decimal.padded 2 (t.second % 60 + t.nano / 1000000000)
    ++ fractionText (t.nano % 1000000000) ++ ['Z']

/-- An instant in Universal Time as text. -/
def text (t : Instant) : String :=
  String.ofList t.chars

/-- A number of at most `most` digits, blank characters allowed in front. -/
def field? (most : Nat) (cs : List Char) : Option (Nat × List Char) :=
  Decimal.upTo? most (trimStart cs)

/-- A given character, blank characters allowed in front. -/
def mark? (c : Char) (cs : List Char) : Option (List Char) :=
  match trimStart cs with
  | d :: r => if d = c then some r else none
  | [] => none

/-- A year: any number of digits after a sign, at most four without one. -/
def year? (cs : List Char) : Option (Int × List Char) :=
  match trimStart cs with
  | '-' :: r => (Decimal.upTo? r.length r).map fun p => (-(p.1 : Int), p.2)
  | '+' :: r => (Decimal.upTo? r.length r).map fun p => ((p.1 : Int), p.2)
  | r => (Decimal.upTo? 4 r).map fun p => ((p.1 : Int), p.2)

/-- Three numbers with a mark between each two, the first one read by `first`. -/
def triple? {α : Type} (mark : Char) (first : List Char → Option (α × List Char))
    (cs : List Char) : Option ((α × Nat × Nat) × List Char) := do
  let (a, cs) ← first cs
  let (b, cs) ← (mark? mark cs).bind (field? 2)
  let (c, cs) ← (mark? mark cs).bind (field? 2)
  return ((a, b, c), cs)

/-- The character between date and time. -/
def divider? (cs : List Char) : Option (List Char) :=
  match cs with
  | c :: r => if c = 'T' ∨ c = 't' ∨ c = ' ' then some r else none
  | [] => none

/-- The fraction of a second in nanoseconds: nothing, or a point and at least one digit. -/
def fraction? (cs : List Char) : Option (Nat × List Char) :=
  match cs with
  | '.' :: r =>
    let ds := r.takeWhile Decimal.isDigit
    if ds.isEmpty then none
    else some (Decimal.value ((ds ++ List.replicate 9 '0').take 9), r.dropWhile Decimal.isDigit)
  | r => some (0, r)

/-- Whether a text starts with the letters `UTC`, and what follows them. -/
def universal? (cs : List Char) : Option (List Char) :=
  match cs with
  | u :: t :: c :: r =>
    if u.toUpper = 'U' ∧ t.toUpper = 'T' ∧ c.toUpper = 'C' then some r else none
  | _ => none

/-- Exactly two digits as a number. -/
def twoDigits? (cs : List Char) : Option (Nat × List Char) :=
  match cs with
  | a :: b :: r =>
    if Decimal.isDigit a ∧ Decimal.isDigit b then some (Decimal.value [a, b], r) else none
  | _ => none

/-- The hours and minutes of an offset in seconds, colons and blanks allowed between them. -/
def offsetSize? (cs : List Char) : Option (Int × List Char) := do
  let (hours, cs) ← twoDigits? cs
  let (minutes, cs) ← twoDigits? (cs.dropWhile fun c => c = ':' || isBlank c)
  if minutes < 60 ∧ hours < 24 then some (3600 * hours + 60 * minutes, cs) else none

/-- The offset of local time from Universal Time in seconds. -/
def offset? (cs : List Char) : Option (Int × List Char) :=
  match universal? cs with
  | some r => some (0, r)
  | none =>
    match cs with
    | 'Z' :: r => some (0, r)
    | 'z' :: r => some (0, r)
    | '+' :: r => offsetSize? r
    | '-' :: r => (offsetSize? r).map fun p => (-p.1, p.2)
    | '\u2212' :: r => (offsetSize? r).map fun p => (-p.1, p.2)
    | _ => none

/-- The instant with the given local date and time of day, `offset` seconds ahead of Universal Time.
Second 60 is the leap second of its minute. -/
def ofLocal? (date : Date) (hour minute second nano : Nat) (offset : Int) : Option Instant :=
  if date.isReal ∧ firstDay ≤ date.toDay ∧ date.toDay ≤ lastDay ∧ hour < 24 ∧ minute < 60 ∧
      second ≤ 60 then
    let inDay : Int := 3600 * hour + 60 * minute + min second 59 - offset
    make? (date.toDay + inDay / 86400) (inDay % 86400).toNat
      (if second = 60 then nano + 1000000000 else nano)
  else none

/-- An instant at the head of a text, and the rest. -/
def read? (cs : List Char) : Option (Instant × List Char) := do
  let ((year, month, day), cs) ← triple? '-' year? cs
  let cs ← divider? cs
  let ((hour, minute, second), cs) ← triple? ':' (field? 2) cs
  let (nano, cs) ← fraction? cs
  let (offset, cs) ← offset? (trimStart cs)
  let t ← ofLocal? ⟨year, month, day⟩ hour minute second nano offset
  return (t, cs)

/-- The instant that a whole text stands for, blank characters allowed at its ends. -/
def ofText? (s : String) : Option Instant :=
  match read? s.toList with
  | some (t, r) => if r.all isBlank then some t else none
  | none => none

end TaskLedger.Instant
