import TaskLedger.Text.Decimal

/-!
# Quoted texts

A text stands between quotes in one of four forms: basic with escapes or literal without them, and
either on one line or, between three quotes, over several.

* `Quoted.basic` and `Quoted.literal` read up to the closing quote;
* `Quoted.multiLineBasic` and `Quoted.multiLineLiteral` read up to three quotes, of which one or two
  more may stand directly in front; a line break after the opening quotes does not count.

Control characters other than tabs stand nowhere.  All readers take the characters behind the
opening quotes and answer with the text and what follows the closing ones.
-/

namespace TaskLedger.Toml.Quoted

open TaskLedger.Text

/-- Whether a character may stand for itself on a line. -/
def isPlain (c : Char) : Bool :=
  c = '\t' || (32 ≤ c.toNat && c.toNat ≠ 127)

/-- Whether a character is a space or a tab. -/
def isSpace (c : Char) : Bool :=
  c = ' ' || c = '\t'

/-- What follows a line break, if the text begins with one. -/
def newLine? (cs : List Char) : Option (List Char) :=
  match cs with
  | '\n' :: r => some r
  | '\r' :: '\n' :: r => some r
  | _ => none

/-- A character by its number in exactly `width` hexadecimal digits.  Surrogates are none. -/
def numbered? (width : Nat) (cs : List Char) : Option (Char × List Char) :=
  if (cs.take width).length < width then none
  else match Decimal.hexNumber? (cs.take width) with
    | some n => if h : n.isValidChar then some (Char.ofNatAux n h, cs.drop width) else none
    | none => none

/-- An escaped character, behind its backslash. -/
def escaped? (cs : List Char) : Option (Char × List Char) :=
  match cs with
  | 'b' :: r => some ('\x08', r)
  | 't' :: r => some ('\t', r)
  | 'n' :: r => some ('\n', r)
  | 'f' :: r => some ('\x0c', r)
  | 'r' :: r => some ('\r', r)
  | 'e' :: r => some ('\x1b', r)
  | '"' :: r => some ('"', r)
  | '\\' :: r => some ('\\', r)
  | 'x' :: r => numbered? 2 r
  | 'u' :: r => numbered? 4 r
  | 'U' :: r => numbered? 8 r
  | _ => none

/-- What follows a backslash at the end of a line: blanks and line breaks do not count. -/
def continued? (cs : List Char) : Option (List Char) :=
  (newLine? (cs.dropWhile isSpace)).map skipLines
where
  /-- A text without the blanks and line breaks in front of it. -/
  skipLines : List Char → List Char
    | '\r' :: '\n' :: r => skipLines r
    | c :: r => if isSpace c || c = '\n' then skipLines r else c :: r
    | [] => []

/-- The text up to a single quote `close`, with `seen` in front of it in reverse. -/
def upTo (close : Char) (escapes : Bool) : Nat → List Char → List Char → Option (String × List Char)
  | 0, _, _ => none
  | _, _, [] => none
  | fuel + 1, seen, c :: r =>
    if c = close then some (String.ofList seen.reverse, r)
    else if escapes ∧ c = '\\' then
      match escaped? r with
      | some (d, r) => upTo close escapes fuel (d :: seen) r
      | none => none
    else if isPlain c then upTo close escapes fuel (c :: seen) r
    else none

/-- The text up to three quotes `close`, with `seen` in front of it in reverse. -/
def upToThree (close : Char) (escapes : Bool) :
    Nat → List Char → List Char → Option (String × List Char)
  | 0, _, _ => none
  | _, _, [] => none
  | fuel + 1, seen, c :: r =>
    if (c :: r).take 3 = [close, close, close] then
      let extra := ((r.drop 2).take 2).takeWhile (· = close)
      some (String.ofList (extra ++ seen).reverse, r.drop (2 + extra.length))
    else if escapes ∧ c = '\\' then
      match continued? r with
      | some r => upToThree close escapes fuel seen r
      | none =>
        match escaped? r with
        | some (d, r) => upToThree close escapes fuel (d :: seen) r
        | none => none
    else if isPlain c ∨ (newLine? (c :: r)).isSome then upToThree close escapes fuel (c :: seen) r
    else none

/-- A basic text on one line. -/
def basic (cs : List Char) : Option (String × List Char) :=
  upTo '"' true (cs.length + 1) [] cs

/-- A literal text on one line. -/
def literal (cs : List Char) : Option (String × List Char) :=
  upTo '\'' false (cs.length + 1) [] cs

/-- A basic text over several lines. -/
def multiLineBasic (cs : List Char) : Option (String × List Char) :=
  upToThree '"' true (cs.length + 1) [] ((newLine? cs).getD cs)

/-- A literal text over several lines. -/
def multiLineLiteral (cs : List Char) : Option (String × List Char) :=
  upToThree '\'' false (cs.length + 1) [] ((newLine? cs).getD cs)

/-- A text in any of the four forms, its opening quotes included. -/
def read? (cs : List Char) : Option (String × List Char) :=
  match cs with
  | '"' :: '"' :: '"' :: r => multiLineBasic r
  | '"' :: r => basic r
  | '\'' :: '\'' :: '\'' :: r => multiLineLiteral r
  | '\'' :: r => literal r
  | _ => none

end TaskLedger.Toml.Quoted
