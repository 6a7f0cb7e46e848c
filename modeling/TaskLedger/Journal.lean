/-!
# The journal

An event of the journal has a severity and named fields, each of them a text or a number.
-/

namespace TaskLedger

/-- How much an event matters. -/
inductive Severity where
  | debug
  | info
  | warning
  deriving DecidableEq, Repr

/-- The name of a severity. -/
def Severity.name : Severity → String
  | debug => "DEBUG"
  | info => "INFO"
  | warning => "WARN"

/-- The value of a field. -/
inductive FieldValue where
  | text (s : String)
  | number (i : Int)
  deriving DecidableEq, Repr

/-- An event of the journal: how much it matters, and its fields by name, the message among them. -/
structure Event where
  severity : Severity
  fields : List (String × FieldValue)
  deriving DecidableEq, Repr

end TaskLedger
