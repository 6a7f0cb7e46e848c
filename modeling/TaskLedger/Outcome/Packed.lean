import TaskLedger.Instant.Text
import TaskLedger.Outcome.Record

/-!
# Records as octets

The packed form of a record has no names: its values follow each other in the order of the members.
Numbers have a fixed width and begin with their lowest octet.  A text is its length in octets, in
eight octets, and then its characters in UTF-8; a value that may be absent has an octet 0 or 1 in
front.  A state is its code in one octet, an instant is its text.

`Record.framed` puts the length of the packed record in front of it, in four octets.
-/

namespace TaskLedger.Packed

/-- A number in a fixed count of octets, the lowest first. -/
def natural : Nat → Nat → List UInt8
  | 0, _ => []
  | width + 1, n => UInt8.ofNat n :: natural width (n / 256)

/-- The characters of a text in UTF-8. -/
def octets (s : String) : List UInt8 :=
  s.toUTF8.toList

/-- A text behind its length. -/
def text (s : String) : List UInt8 :=
  natural 8 (octets s).length ++ octets s

/-- A value that may be absent. -/
def optional {α : Type} (pack : α → List UInt8) : Option α → List UInt8
  | none => [0]
  | some a => 1 :: pack a

/-- An instant as its text. -/
def instant (t : Instant) : List UInt8 :=
  text t.text

theorem natural_length (width n : Nat) : (natural width n).length = width := by
  induction width generalizing n with
  | zero => rfl
  | succ width ih => simp [natural, ih]

end TaskLedger.Packed

namespace TaskLedger

open Packed

/-- The packed form of the record of a task. -/
def Runner.Outcome.packed (r : Runner.Outcome) : List UInt8 :=
  optional (fun id => natural 8 id.toNat) r.taskId ++ text r.taskClass ++ optional text r.taskTag
    ++ optional text r.runTarget ++ natural 1 r.state.code ++ optional instant r.queuedAt
    ++ optional instant r.consumedAt ++ optional instant r.runAt ++ optional instant r.finishedAt
    ++ optional text r.errorInfo

/-- The packed form of the record of a scheduled job. -/
def Croner.Outcome.packed (r : Croner.Outcome) : List UInt8 :=
  text r.taskClass ++ optional text r.taskParam ++ optional text r.runTarget
    ++ natural 1 r.state.code ++ optional instant r.scheduledAt ++ optional instant r.runAt
    ++ optional instant r.finishedAt ++ optional instant r.nextAt ++ optional text r.errorInfo

namespace Record

/-- The packed form of a record. -/
def packed : {k : Kind} → Record k → List UInt8
  | .runner, r => Runner.Outcome.packed r
  | .croner, r => Croner.Outcome.packed r

/-- The packed form of a record behind its length. -/
def framed {k : Kind} (r : Record k) : List UInt8 :=
  natural 4 r.packed.length ++ r.packed

end Record

end TaskLedger
