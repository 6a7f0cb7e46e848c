import TaskLedger.Json.Fault
import TaskLedger.Text.Decimal

/-!
# Quoted texts

A text stands between quotes.  A quote, a backslash and the characters below U+0020 are escaped when
it is written; all else stands for itself.

* `Quoted.write` writes a text;
* `Quoted.body` reads one whose first quote has been read, every escape of the format included;
* `Quoted.skip` goes past one without asking which characters its escapes stand for.

A character outside the first 65536 may be escaped by a pair of surrogates; a surrogate on its own
is no character.
-/

namespace TaskLedger.Json.Quoted

open TaskLedger.Text

/-- A character between quotes. -/
def charText (c : Char) : List Char :=
  if c = '"' then ['\\', '"']
  else if c = '\\' then ['\\', '\\']
  else if c = '\x08' then ['\\', 'b']
  else if c = '\x0c' then ['\\', 'f']
  else if c = '\n' then ['\\', 'n']
  else if c = '\r' then ['\\', 'r']
  else if c = '\t' then ['\\', 't']
  else if c.toNat < 32 then '\\' :: 'u' :: Decimal.hexPadded 4 c.toNat
  else [c]

/-- The characters of a quoted text. -/
def chars (s : List Char) : List Char :=
  '"' :: s.flatMap charText ++ ['"']

/-- A text in quotes. -/
def write (s : String) : String :=
  String.ofList (chars s.toList)

/-- How many octets a text takes in UTF-8. -/
def octets (cs : List Char) : Nat :=
  (String.ofList cs).utf8ByteSize

/-- Four hexadecimal digits.  Four octets must be there before any of them is looked at. -/
def fourHex {ε : Type} (cs : List Char) : Except (Fault ε) (Nat × List Char) :=
  match cs with
  | a :: b :: c :: d :: r =>
    match Decimal.hexNumber? [a, b, c, d] with
    | some n => .ok (n, r)
    | none => .error .malformed
  | short => .error (if octets short < 4 then .eof else .malformed)

/-- Reads one given character, without a gap. -/
def next {ε : Type} (c : Char) (cs : List Char) : Except (Fault ε) (List Char) :=
  match cs with
  | d :: r => if d = c then .ok r else .error .malformed
  | [] => .error .eof

/-- A character that is escaped by its number, whose `u` has been read. -/
def numbered {ε : Type} (cs : List Char) : Except (Fault ε) (Char × List Char) := do
  let (n, cs) ← fourHex cs
  if 0xDC00 ≤ n ∧ n ≤ 0xDFFF then .error .malformed
  else if 0xD800 ≤ n ∧ n ≤ 0xDBFF then
    let cs ← next '\\' cs
    let cs ← next 'u' cs
    let (low, cs) ← fourHex cs
    if 0xDC00 ≤ low ∧ low ≤ 0xDFFF then
      .ok (Char.ofNat (0x10000 + 0x400 * (n - 0xD800) + (low - 0xDC00)), cs)
    else .error .malformed
  else .ok (Char.ofNat n, cs)

/-- The character that a letter after a backslash stands for. -/
def lettered? (c : Char) : Option Char :=
  if c = '"' ∨ c = '\\' ∨ c = '/' then some c
  else if c = 'b' then some '\x08'
  else if c = 'f' then some '\x0c'
  else if c = 'n' then some '\n'
  else if c = 'r' then some '\r'
  else if c = 't' then some '\t'
  else none

/-- An escaped character, whose backslash has been read. -/
def escaped {ε : Type} (cs : List Char) : Except (Fault ε) (Char × List Char) :=
  match cs with
  | [] => .error .eof
  | c :: r =>
    if c = 'u' then numbered r
    else match lettered? c with
      | some d => .ok (d, r)
      | none => .error .malformed

/-- The next character of a text, or `none` at its closing quote. -/
def unit {ε : Type} (cs : List Char) : Except (Fault ε) (Option Char × List Char) :=
  match cs with
  | [] => .error .eof
  | c :: r =>
    if c = '"' then .ok (none, r)
    else if c = '\\' then (escaped r).map fun p => (some p.1, p.2)
    else if c.toNat < 32 then .error .malformed
    else .ok (some c, r)

/-- The characters up to the closing quote, `seen` in front of them in reverse. -/
def units {ε : Type} : Nat → List Char → Reader ε (List Char)
  | 0, _, _ => .error .eof
  | fuel + 1, seen, cs =>
    match unit cs with
    | .error fault => .error fault
    | .ok (none, r) => .ok (seen.reverse, r)
    | .ok (some c, r) => units fuel (c :: seen) r

/-- A text whose opening quote has been read. -/
def body {ε : Type} (cs : List Char) : Except (Fault ε) (String × List Char) :=
  (units (cs.length + 1) [] cs).map fun p => (String.ofList p.1, p.2)

/-- Goes past one character of a text: whether it was the closing quote, and what follows. -/
def skipUnit {ε : Type} (cs : List Char) : Except (Fault ε) (Bool × List Char) :=
  match cs with
  | [] => .error .eof
  | c :: r =>
    if c = '"' then .ok (true, r)
    else if c = '\\' then
      match r with
      | [] => .error .eof
      | d :: r =>
        if d = 'u' then (fourHex r).map fun p => (false, p.2)
        else if (lettered? d).isSome then .ok (false, r)
        else .error .malformed
    else if c.toNat < 32 then .error .malformed
    else .ok (false, r)

/-- Goes past the characters up to the closing quote. -/
def skipUnits {ε : Type} : Nat → List Char → Except (Fault ε) (List Char)
  | 0, _ => .error .eof
  | fuel + 1, cs =>
    match skipUnit cs with
    | .error fault => .error fault
    | .ok (true, r) => .ok r
    | .ok (false, r) => skipUnits fuel r

/-- Goes past a text whose opening quote has been read. -/
def skip {ε : Type} (cs : List Char) : Except (Fault ε) (List Char) :=
  skipUnits (cs.length + 1) cs

end TaskLedger.Json.Quoted
