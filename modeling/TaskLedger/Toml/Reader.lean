import TaskLedger.Toml.Quoted
import TaskLedger.Toml.Scalar

/-!
# Reading TOML documents

A document is a sequence of lines.  A line holds a header, a key with its value, or nothing, and may
end with a comment.  Values in brackets and braces go on over line breaks and comments.

* `value` reads a value whose brackets are nested at most so deep;
* `Statement` is what a line says;
* `document?` reads a whole text and puts the statements together to one table.

Keys, quoted or bare, may be joined by points to a path.
-/

namespace TaskLedger.Toml

open Quoted

/-- How deep brackets may be nested. -/
def maxDepth : Nat := 80

/-- How many keys points may join. -/
def maxKeys : Nat := 80

/-- A text without the spaces and tabs in front of it. -/
def skipSpace (cs : List Char) : List Char :=
  cs.dropWhile isSpace

/-- What follows a comment, if the text begins with one; a comment holds no control characters. -/
def skipComment? (cs : List Char) : Option (List Char) :=
  match cs with
  | '#' :: r =>
    let onLine (c : Char) : Bool := c ≠ '\n' && c ≠ '\r'
    if (r.takeWhile onLine).all isPlain then some (r.dropWhile onLine) else none
  | r => some r

/-- What follows the end of a line: spaces, a comment and a line break or the end of the text. -/
def endOfLine? (cs : List Char) : Option (List Char) := do
  let r ← skipComment? (skipSpace cs)
  if r.isEmpty then some [] else newLine? r

/-- A text without the spaces, comments and line breaks in front of it. -/
def skipGap? : Nat → List Char → Option (List Char)
  | 0, _ => none
  | fuel + 1, cs => do
    let r ← skipComment? (skipSpace cs)
    match newLine? r with
    | some r => skipGap? fuel r
    | none => some r

/-- `skipGap?` with enough fuel. -/
def gap? (cs : List Char) : Option (List Char) :=
  skipGap? (cs.length + 1) cs

/-- Whether a character may stand in a bare key. -/
def isBare (c : Char) : Bool :=
  c.isAlphanum || c = '-' || c = '_'

/-- A single key. -/
def simpleKey? (cs : List Char) : Option (String × List Char) :=
  match cs with
  | '"' :: r => basic r
  | '\'' :: r => literal r
  | _ =>
    let name := cs.takeWhile isBare
    if name.isEmpty then none else some (String.ofList name, cs.drop name.length)

/-- Keys joined by points, at most so many, the last one apart. -/
def path? : Nat → List Char → Option ((List String × String) × List Char)
  | 0, _ => none
  | more + 1, cs => do
    let (key, r) ← simpleKey? (skipSpace cs)
    match skipSpace r with
    | '.' :: r =>
      let ((path, last), r) ← path? more r
      some ((key :: path, last), r)
    | r => some (([], key), r)

/-- All keys that points join at the head of a text, the last one apart. -/
def keys? (cs : List Char) : Option ((List String × String) × List Char) :=
  path? maxKeys cs

/-- The items up to the closing bracket, with a comma behind each one but perhaps the last. -/
def items? {α : Type} (close : Char) (item? : α → List Char → Option (α × List Char)) :
    Nat → α → List Char → Option (α × List Char)
  | 0, _, _ => none
  | fuel + 1, made, cs => do
    let cs ← gap? cs
    if cs.head? = some close then some (made, cs.drop 1)
    else
      let (made, r) ← item? made cs
      match ← gap? r with
      | [] => none
      | c :: r =>
        if c = close then some (made, r)
        else if c = ',' then items? close item? fuel made r
        else none

/-- A key with its value, added to the members of a table in braces. -/
def member? (value? : List Char → Option (Node × List Char)) (members : Members) (cs : List Char) :
    Option (Members × List Char) := do
  let ((path, key), r) ← keys? cs
  match ← gap? r with
  | '=' :: r =>
    let (node, r) ← value? (← gap? r)
    some (← members.assign path key node, r)
  | _ => none

/-- A value with brackets nested at most `depth` deep. -/
def value? : Nat → List Char → Option (Node × List Char)
  | _, '"' :: r => quoted ('"' :: r)
  | _, '\'' :: r => quoted ('\'' :: r)
  | depth + 1, '[' :: r =>
    (items? ']' (fun made cs => (value? depth cs).map fun p => (p.1 :: made, p.2))
      (r.length + 1) [] r).map fun p => (.list p.1.reverse, p.2)
  | depth + 1, '\x7b' :: r =>
    (items? '\x7d' (member? (value? depth)) (r.length + 1) [] r).map fun p =>
      (.table .inline p.1, p.2)
  | _, cs => (Scalar.read? cs).map fun p => (.scalar p.1, p.2)
where
  /-- A quoted text as a value. -/
  quoted (cs : List Char) : Option (Node × List Char) :=
    (Quoted.read? cs).map fun p => (.scalar (.text p.1), p.2)

/-- What a line says: a table begins, a table of a list of tables begins, or a key has a value. -/
inductive Statement where
  | header (path : List String) (key : String)
  | itemHeader (path : List String) (key : String)
  | assignment (path : List String) (key : String) (node : Node)

/-- The keys of a header up to its closing brackets. -/
def headerKeys? (close : List Char) (cs : List Char) :
    Option ((List String × String) × List Char) := do
  let (keys, r) ← keys? cs
  if r.take close.length = close then some (keys, r.drop close.length) else none

/-- The statement on a line that is not empty. -/
def statement? (cs : List Char) : Option (Statement × List Char) :=
  match cs with
  | '[' :: '[' :: r =>
    (headerKeys? [']', ']'] r).map fun p => (.itemHeader p.1.1 p.1.2, p.2)
  | '[' :: r => (headerKeys? [']'] r).map fun p => (.header p.1.1 p.1.2, p.2)
  | _ => do
    let ((path, key), r) ← keys? cs
    match r with
    | '=' :: r =>
      let (node, r) ← value? maxDepth (skipSpace r)
      some (.assignment path key node, r)
    | _ => none

/-- The statements of a text, `seen` in front of them in reverse. -/
def statements? : Nat → List Statement → List Char → Option (List Statement)
  | 0, _, _ => none
  | fuel + 1, seen, cs => do
    let cs ← gap? cs
    if cs.isEmpty then some seen.reverse
    else
      let (statement, r) ← statement? cs
      statements? fuel (statement :: seen) (← endOfLine? r)

/-- A document while its statements are put together: its members, and the table that the last
header opened. -/
structure Draft where
  members : Members
  current : Option (List String × String)

/-- The keys on the way to the open table, its own included. -/
def Draft.way (draft : Draft) : List String :=
  match draft.current with
  | none => []
  | some (path, key) => path ++ [key]

/-- A document after one more statement. -/
def Draft.add? (draft : Draft) : Statement → Option Draft
  | .header path key =>
    (draft.members.openTable path key).map fun members => ⟨members, some (path, key)⟩
  | .itemHeader path key =>
    (draft.members.openItem path key).map fun members => ⟨members, some (path, key)⟩
  | .assignment path key node =>
    (draft.members.descend false (fun _ inner => inner.assign path key node) draft.way
      .opened).map fun members => { draft with members }

/-- A text without the mark of its byte order. -/
def skipByteOrderMark (cs : List Char) : List Char :=
  match cs with
  | '\ufeff' :: r => r
  | r => r

/-- The members of the table that a whole text describes. -/
def document? (s : String) : Option Members := do
  let cs := skipByteOrderMark s.toList
  let statements ← statements? (cs.length + 1) [] cs
  (← statements.foldlM Draft.add? ⟨[], none⟩).members

end TaskLedger.Toml
