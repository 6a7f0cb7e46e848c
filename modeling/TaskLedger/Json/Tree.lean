import TaskLedger.Json.Quoted

/-!
# Writing JSON

A `Tree` is a value that can be written.

* `Tree.compact` writes it without any gap;
* `Tree.pretty` writes it over several lines, two spaces deeper in every bracket, an empty list or
  object on one.
-/

namespace TaskLedger.Json

open TaskLedger.Text

/-- A value without fractions and negative numbers.  The members of an object are in order. -/
inductive Tree where
  | null
  | natural (n : Nat)
  | text (s : String)
  | boolean (b : Bool)
  | list (items : List Tree)
  | object (members : List (String × Tree))

namespace Tree

/-- A value that may be absent. -/
def optional {α : Type} (tree : α → Tree) : Option α → Tree
  | none => null
  | some a => tree a

mutual

/-- A value without gaps. -/
def compact : Tree → List Char
  | null => ['n', 'u', 'l', 'l']
  | natural n => Decimal.digits n
  | text s => Quoted.chars s.toList
  | boolean b => if b then ['t', 'r', 'u', 'e'] else ['f', 'a', 'l', 's', 'e']
  | list items => '[' :: compactItems true items
  | object members => '\x7b' :: compactMembers true members

/-- The items of a list and its end, a comma in front of all but the first. -/
def compactItems (first : Bool) : List Tree → List Char
  | [] => [']']
  | item :: items =>
    (if first then [] else [',']) ++ compact item ++ compactItems false items

/-- The members of an object and its end, a comma in front of all but the first. -/
def compactMembers (first : Bool) : List (String × Tree) → List Char
  | [] => ['\x7d']
  | (key, value) :: members =>
    (if first then [] else [',']) ++ Quoted.chars key.toList ++ ':' :: compact value
      ++ compactMembers false members

end

/-- A line break and the space in front of a line at the given depth. -/
def newLine (depth : Nat) : List Char :=
  '\n' :: List.replicate (2 * depth) ' '

mutual

/-- A value over several lines, which begins at the given depth. -/
def pretty (depth : Nat) : Tree → List Char
  | null => ['n', 'u', 'l', 'l']
  | natural n => Decimal.digits n
  | text s => Quoted.chars s.toList
  | boolean b => if b then ['t', 'r', 'u', 'e'] else ['f', 'a', 'l', 's', 'e']
  | list [] => ['[', ']']
  | list (item :: items) =>
    '[' :: newLine (depth + 1) ++ pretty (depth + 1) item ++ prettyItems depth items
  | object [] => ['\x7b', '\x7d']
  | object ((key, value) :: members) =>
    '\x7b' :: newLine (depth + 1) ++ Quoted.chars key.toList ++ ':' :: ' '
      :: pretty (depth + 1) value ++ prettyMembers depth members

/-- The later items of a list and its end. -/
def prettyItems (depth : Nat) : List Tree → List Char
  | [] => newLine depth ++ [']']
  | item :: items =>
    ',' :: newLine (depth + 1) ++ pretty (depth + 1) item ++ prettyItems depth items

/-- The later members of an object and its end. -/
def prettyMembers (depth : Nat) : List (String × Tree) → List Char
  | [] => newLine depth ++ ['\x7d']
  | (key, value) :: members =>
    ',' :: newLine (depth + 1) ++ Quoted.chars key.toList ++ ':' :: ' '
      :: pretty (depth + 1) value ++ prettyMembers depth members

end

end Tree

end TaskLedger.Json
