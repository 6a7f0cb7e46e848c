import TaskLedger.Json.Scalar

/-!
# Values that nobody asked for

A member of an object that the reader does not know is passed over.  Its form is checked, its
contents are not: numbers may be of any size, and an escape need not stand for a character.  A
number that breaks off is malformed here, also at the end of the text.

The open brackets are kept on a stack, so that values may be nested to any depth.
-/

namespace TaskLedger.Json.Skip

open TaskLedger.Text

variable {ε : Type}

/-- Goes past at least one digit. -/
def digits (cs : List Char) : Except (Fault ε) (List Char) :=
  match Decimal.digitsOf cs with
  | ([], _) => .error .malformed
  | (_, rest) => .ok rest

/-- Goes past the digits before a point: zero alone, or digits that do not begin with it. -/
def whole (cs : List Char) : Except (Fault ε) (List Char) :=
  match cs with
  | '0' :: c :: r => if Decimal.isDigit c then .error .malformed else .ok (c :: r)
  | r => digits r

/-- Goes past an exponent, if there is one. -/
def exponent (cs : List Char) : Except (Fault ε) (List Char) :=
  match cs with
  | c :: r =>
    if c = 'e' ∨ c = 'E' then
      match r with
      | '+' :: r => digits r
      | '-' :: r => digits r
      | r => digits r
    else .ok cs
  | [] => .ok []

/-- Goes past a point and its digits, if there is a point. -/
def fraction (cs : List Char) : Except (Fault ε) (List Char) :=
  match cs with
  | '.' :: r => digits r
  | r => .ok r

/-- Goes past a number. -/
def number (cs : List Char) : Except (Fault ε) (List Char) := do
  let cs ← whole (match cs with
    | '-' :: r => r
    | r => r)
  exponent (← fraction cs)

/-- Goes past a word, a number or a text, which begins here. -/
def scalar (cs : List Char) : Except (Fault ε) (List Char) :=
  match cs with
  | [] => .error .eof
  | c :: r =>
    match wordTail? c with
    | some tail => word tail r
    | none =>
      if beginsNumber c then number cs
      else if c = '"' then Quoted.skip r
      else .error .malformed

/-- An open bracket. -/
inductive Bracket where
  | list
  | object
  deriving DecidableEq

/-- The character that closes a bracket. -/
def Bracket.close : Bracket → Char
  | .list => ']'
  | .object => '\x7d'

/-- What may follow: a value, the first element of the innermost bracket or its end, or a comma and
the next element or the end. -/
inductive Expected where
  | value
  | first
  | next
  deriving DecidableEq

/-- Goes past the key of a member and its colon, if elements of the bracket have keys. -/
def key (bracket : Bracket) (cs : List Char) : Except (Fault ε) (List Char) :=
  match bracket with
  | .list => .ok cs
  | .object => do
    let cs ← mark '"' cs
    mark ':' (← Quoted.skip cs)

/-- Goes past everything up to the end of the outermost bracket. -/
def run : Nat → Expected → List Bracket → List Char → Except (Fault ε) (List Char)
  | 0, _, _, _ => .error .eof
  | fuel + 1, .value, stack, cs =>
    match skipGap cs with
    | '[' :: r => run fuel .first (.list :: stack) r
    | '\x7b' :: r => run fuel .first (.object :: stack) r
    | r =>
      match scalar r with
      | .ok rest => run fuel .next stack rest
      | .error fault => .error fault
  | _ + 1, _, [], cs => .ok cs
  | fuel + 1, expected, bracket :: stack, cs =>
    match skipGap cs with
    | [] => .error .eof
    | c :: r =>
      if c = bracket.close then run fuel .next stack r
      else if expected = .next ∧ c ≠ ',' then .error .malformed
      else match key bracket (if expected = .next then r else c :: r) with
        | .ok rest => run fuel .value (bracket :: stack) rest
        | .error fault => .error fault

/-- Goes past one value. -/
def value (cs : List Char) : Except (Fault ε) (List Char) :=
  run (2 * cs.length + 2) .value [] cs

end TaskLedger.Json.Skip
