import TaskLedger.Binary64.Shortest
import TaskLedger.Metrics.Registry

/-!
# The text of measured values

Every series is written in a line of its own, `name{label="value"} value`, and every name has a
line that tells its type.  A summary has two lines, its sum and its number of observations.

* A name holds letters, digits, underscores and colons, and begins with no digit; an underscore
  stands for every other character.  Of series whose names and labels are the same then, the last
  one is shown.
* In the value of a label a quote, a backslash and a line break are escaped.  A backslash that
  stands before a quote or a backslash counts as its escape already, also when line breaks come
  between the two, which are written at once.

The lines are sorted.
-/

namespace TaskLedger.Exposition

open TaskLedger.Text

/-- Whether a name may begin with a character. -/
def beginsName (c : Char) : Bool :=
  c.isAlpha || c = '_' || c = ':'

/-- Whether a character may stand in a name. -/
def isInName (c : Char) : Bool :=
  beginsName c || Decimal.isDigit c

/-- A name with underscores for the characters that may not stand in it. -/
def cleanName (name : String) : String :=
  String.ofList (match name.toList with
    | [] => []
    | c :: r => (if beginsName c then c else '_') :: r.map fun c => if isInName c then c else '_')

/-- The value of a label between its quotes; `pending` if a backslash has been read and not been
written. -/
def labelChars (pending : Bool) : List Char → List Char
  | [] => if pending then ['\\', '\\'] else []
  | c :: r =>
    if c = '"' then '\\' :: '"' :: labelChars false r
    else if c = '\\' then
      if pending then '\\' :: '\\' :: labelChars false r else labelChars true r
    else if c = '\n' then '\\' :: 'n' :: labelChars pending r
    else (if pending then ['\\', '\\'] else []) ++ c :: labelChars false r

/-- A label with its value. -/
def label (l : String × String) : String :=
  cleanName l.1 ++ "=\"" ++ String.ofList (labelChars false l.2.toList) ++ "\""

/-- The labels of a series in braces; no braces without labels. -/
def labels (ls : List (String × String)) : String :=
  if ls.isEmpty then "" else "\x7b" ++ ",".intercalate (ls.map label) ++ "\x7d"

/-- The values as they are shown: under clean names, which may unite series. -/
def shown {α : Type} (values : Values α) : Values α :=
  values.foldl (fun made (s, a) => made.change ⟨cleanName s.name, s.labels⟩ fun _ => a) []

/-- The line of a series, a suffix added to its name. -/
def line (s : Series) (suffix value : String) : String :=
  s.name ++ suffix ++ labels s.labels ++ " " ++ value

/-- The lines that tell the type of names. -/
def typeLines {α : Type} (type : String) (values : Values α) : List String :=
  (values.map fun value => value.1.name).eraseDups.map fun name => "# TYPE " ++ name ++ " " ++ type

/-- The lines of values of one type, each value written by `valueLines`. -/
def block {α : Type} (type : String) (values : Values α) (valueLines : Series × α → List String) :
    List String :=
  typeLines type (shown values) ++ (shown values).flatMap valueLines

/-- All lines, in the order in which the series came up. -/
def unsorted (r : Registry) : List String :=
  block "counter" r.counters (fun (s, n) => [line s "" (Decimal.text n)])
    ++ block "gauge" r.gauges (fun (s, x) => [line s "" (Binary64.Shortest.text x)])
    ++ block "summary" r.summaries fun (s, sum, n) =>
      [line s "_sum" (Binary64.Shortest.text sum), line s "_count" (Decimal.text n)]

/-- All lines in order. -/
def lines (r : Registry) : List String :=
  (unsorted r).mergeSort fun a b => !(b < a)

end TaskLedger.Exposition
