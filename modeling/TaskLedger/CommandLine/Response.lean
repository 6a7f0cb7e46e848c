import TaskLedger.Settings.Load
import TaskLedger.Settings.Warning
import TaskLedger.Json.Tree
import TaskLedger.Text.Decimal
import TaskLedger.Text.Lines

/-!
# Responses

What a command prints, and why it failed if it did: a list of texts, each of which is the cause of
the one before it.  A command that crashes neither prints its answer nor tells why.
-/

namespace TaskLedger

/-- The texts of a fault and of what caused it. -/
def LoadFault.chain (fault : LoadFault) : List String :=
  match fault with
  | unreadable cause => [fault.message, cause.message]
  | _ => [fault.message]

/-- What a command answers: what it prints, why it failed, if it did, and whether it crashed. -/
structure Response where
  printed : String := ""
  failure : Option (List String) := none
  crashed : Bool := false
  deriving DecidableEq, Repr

namespace Response

/-- Prints lines. -/
def ofLines (ls : List String) : Response :=
  { printed := Text.lines ls }

/-- Prints a value over several lines. -/
def ofTree (tree : Json.Tree) : Response :=
  ofLines [String.ofList (tree.pretty 0)]

/-- The text about a failure: the first text of a chain, and below it what caused it. -/
def failureText : List String → String
  | [] => ""
  | [only] => Text.lines ["Error: " ++ only]
  | [first, cause] => Text.lines ["Error: " ++ first, "", "Caused by:", "    " ++ cause]
  | first :: causes =>
    Text.lines (["Error: " ++ first, "", "Caused by:"] ++ causes.zipIdx.map fun (cause, n) =>
      "    " ++ Text.Decimal.text n ++ ": " ++ cause)

/-- Fails without printing. -/
def failed (chain : List String) : Response :=
  { failure := some chain }

end Response

/-- Loads settings for a command that cannot do without them. -/
def Settings.require (fs : Files) (path : String) : Except (List String) Settings :=
  if fs.isThere path then
    (Settings.load fs path).mapError fun fault =>
      ("Failed to load config from " ++ path) :: fault.chain
  else .error ["Configuration file not found: " ++ path]

end TaskLedger
