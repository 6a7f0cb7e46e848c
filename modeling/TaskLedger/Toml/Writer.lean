import TaskLedger.Text.Decimal

/-!
# Writing TOML documents

A document is written section by section: the members of the document itself, then one section for
each header.  `Section` lists the members of a section, `document` writes all of them with a blank
line in front of every header.

A text is written in the first form that can hold it without escapes: basic, literal, basic over
several lines, literal over several lines; a tab is written as an escape in a basic text.  If no
form can, the text is escaped.  A form over several lines begins with a line break when its text has
one.  Keys are bare where they can be.
-/

namespace TaskLedger.Toml.Write

open TaskLedger.Text

/-- Whether a character needs an escape by its number or its letter, line breaks and tabs apart. -/
def isControl (c : Char) : Bool :=
  (c.toNat < 32 || c.toNat = 127) && c ≠ '\n' && c ≠ '\t'

/-- The longest run of a character in a text, `here` being the run that has just been read. -/
def longestRun (c : Char) (here : Nat) : List Char → Nat
  | [] => here
  | d :: r => if d = c then longestRun c (here + 1) r else max here (longestRun c 0 r)

/-- An escape in a basic text. -/
def escape (c : Char) : List Char :=
  if c = '\x08' then ['\\', 'b']
  else if c = '\t' then ['\\', 't']
  else if c = '\n' then ['\\', 'n']
  else if c = '\x0c' then ['\\', 'f']
  else if c = '\r' then ['\\', 'r']
  else if c = '\\' then ['\\', '\\']
  else if c.toNat < 32 ∨ c.toNat = 127 then
    '\\' :: 'u' :: (Decimal.hexPadded 4 c.toNat).map Char.toUpper
  else [c]

/-- The characters of a basic text, in which at most `limit` quotes may follow each other; line
breaks stand for themselves if `lines`.  The number tells how many quotes are directly in front. -/
def escaped (limit : Nat) (lines : Bool) : Nat → List Char → List Char
  | _, [] => []
  | run, c :: r =>
    if c = '"' then
      if run < limit then '"' :: escaped limit lines (run + 1) r
      else '\\' :: '"' :: escaped limit lines 0 r
    else if lines ∧ c = '\n' then '\n' :: escaped limit lines 0 r
    else escape c ++ escaped limit lines 0 r

/-- A text between quotes that are written as `quotes`, over several lines if `lines`. -/
def between (quotes : List Char) (lines : Bool) (text body : List Char) : List Char :=
  quotes ++ (if lines ∧ '\n' ∈ text then ['\n'] else []) ++ body ++ quotes

/-- A basic text on one line. -/
def basic (text : List Char) : List Char :=
  between ['"'] false text (escaped 0 false 0 text)

/-- A literal text on one line. -/
def literal (text : List Char) : List Char :=
  between ['\''] false text text

/-- A basic text over several lines. -/
def multiLineBasic (text : List Char) : List Char :=
  between ['"', '"', '"'] true text (escaped 2 true 0 text)

/-- A literal text over several lines. -/
def multiLineLiteral (text : List Char) : List Char :=
  between ['\'', '\'', '\''] true text text

/-- A text as a value. -/
def quoted (text : List Char) : List Char :=
  let plain := !text.any isControl
  if plain && !text.contains '\\' && !text.contains '"' && !text.contains '\n' then basic text
  else if plain && !text.contains '\'' && !text.contains '\n' then literal text
  else if plain && !text.contains '\\' && longestRun '"' 0 text ≤ 2 then multiLineBasic text
  else if plain && longestRun '\'' 0 text ≤ 2 then multiLineLiteral text
  else if text.contains '\n' then multiLineBasic text
  else basic text

/-- Whether a character may stand in a bare key. -/
def isBare (c : Char) : Bool :=
  c.isAlphanum || c = '-' || c = '_'

/-- A key. -/
def key (name : List Char) : List Char :=
  let plain := !name.any isControl && !name.contains '\n'
  if !name.isEmpty && name.all isBare then name
  else if plain && !name.contains '\\' && !name.contains '"' then basic name
  else if plain && !name.contains '\'' then literal name
  else basic name

/-- A value in a section. -/
inductive Value where
  | text (s : String)
  | natural (n : Nat)
  | emptyList

/-- The characters of a value. -/
def Value.chars : Value → List Char
  | text s => quoted s.toList
  | natural n => Decimal.digits n
  | emptyList => ['[', ']']

/-- How a section begins: the document itself has no header; another section is a table with a path,
or one more item of the list of tables with a path. -/
inductive Header where
  | none
  | table (path : List String)
  | item (path : List String)

/-- The keys of a path joined by points. -/
def path (names : List String) : List Char :=
  ['.'].intercalate (names.map fun name => key name.toList)

/-- The line of a header, with a blank line in front. -/
def Header.chars : Header → List Char
  | none => []
  | table names => '\n' :: '[' :: path names ++ [']', '\n']
  | item names => '\n' :: '[' :: '[' :: path names ++ [']', ']', '\n']

/-- A header with the members that follow it, in order. -/
structure Section where
  header : Header
  members : List (String × Value)

/-- The line of a member. -/
def member (m : String × Value) : List Char :=
  key m.1.toList ++ ' ' :: '=' :: ' ' :: m.2.chars ++ ['\n']

/-- The lines of a section. -/
def Section.chars (s : Section) : List Char :=
  s.header.chars ++ s.members.flatMap member

/-- A whole document. -/
def document (sections : List Section) : String :=
  String.ofList (sections.flatMap Section.chars)

end TaskLedger.Toml.Write
