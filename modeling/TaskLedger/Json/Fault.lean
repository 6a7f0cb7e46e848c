/-!
# Faults of a JSON text

A typed reader goes through a text from left to right and stops at the first fault, which is one of
three kinds:

* `Fault.eof`: the text ends inside a value;
* `Fault.malformed`: the next character cannot stand there;
* `Fault.mismatch`: the text is well formed so far and does not fit the type that is read.

A mismatch carries a cause where the type has one to give.
-/

namespace TaskLedger.Json

/-- The first fault of a text, with causes from `ε`: the text ended early, a character stands where
it cannot, or a value does not fit the type that is read. -/
inductive Fault (ε : Type) where
  | eof
  | malformed
  | mismatch (cause : Option ε)
  deriving DecidableEq, Repr

/-- A reader of an `α` at the head of a text: the value and what follows it, or the first fault. -/
abbrev Reader (ε α : Type) := List Char → Except (Fault ε) (α × List Char)

/-- Whether a character may stand between the parts of a JSON text. -/
def isGap (c : Char) : Bool :=
  c = ' ' || c = '\n' || c = '\t' || c = '\r'

/-- A text without the gap in front of it. -/
def skipGap (cs : List Char) : List Char :=
  cs.dropWhile isGap

/-- The fault of a text that goes on with something that cannot stand there, or ends. -/
def unexpected {ε : Type} : List Char → Fault ε
  | [] => .eof
  | _ :: _ => .malformed

/-- Reads one given character after a gap. -/
def mark {ε : Type} (c : Char) (cs : List Char) : Except (Fault ε) (List Char) :=
  match skipGap cs with
  | d :: r => if d = c then .ok r else .error .malformed
  | [] => .error .eof

theorem skipGap_cons_of_not {c : Char} {r : List Char} (h : isGap c = false) :
    skipGap (c :: r) = c :: r := by
  simp [skipGap, h]

end TaskLedger.Json
