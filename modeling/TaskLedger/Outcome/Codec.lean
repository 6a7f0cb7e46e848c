import TaskLedger.Json.Compound
import TaskLedger.Json.Tree
import TaskLedger.Outcome.Record

/-!
# Records as JSON texts

`Record.tree` lists the members of a record in their fixed order, absent ones as `null`, and
`Record.line` is its text without gaps.  `Record.reader` reads a record: the class and the state
have to be there, unknown members are passed over, and a list of the values in the same order is
accepted too, in which the four times may not be missing.

A wrong code of a state is the one mismatch that has a cause.
-/

namespace TaskLedger

open Json

/-- An instant in a quoted text. -/
def Instant.tree (t : Instant) : Tree :=
  .text t.text

/-- Reads an instant from a quoted text. -/
def Instant.reader {ε : Type} : Reader ε Instant :=
  refine Json.text fun s =>
    match Instant.ofText? s with
    | some t => .ok t
    | none => .error none

/-- Reads a code of one octet and looks up its state. -/
def stateReader {σ : Type} (ofCode? : Nat → Except BadCode σ) : Reader BadCode σ :=
  refine (natural 256) fun code => (ofCode? code).mapError some

namespace Runner.Outcome

/-- The members of a record in order. -/
def tree (r : Outcome) : Tree :=
  .object [
    ("task_id", .optional (fun id => .natural id.toNat) r.taskId),
    ("task_class", .text r.taskClass),
    ("task_tag", .optional .text r.taskTag),
    ("run_target", .optional .text r.runTarget),
    ("state", .natural r.state.code),
    ("queued_at", .optional Instant.tree r.queuedAt),
    ("consumed_at", .optional Instant.tree r.consumedAt),
    ("run_at", .optional Instant.tree r.runAt),
    ("finished_at", .optional Instant.tree r.finishedAt),
    ("error_info", .optional .text r.errorInfo)]

/-- The fields of a record in the order of a list. -/
def fields : Fields BadCode Outcome := [
  .of "task_id" .never (optional (natural UInt64.size)) fun id r =>
    { r with taskId := id.map UInt64.ofNat },
  .of "task_class" .always text fun s r => { r with taskClass := s },
  .of "task_tag" .never (optional text) fun s r => { r with taskTag := s },
  .of "run_target" .never (optional text) fun s r => { r with runTarget := s },
  .of "state" .always (stateReader State.ofCode?) fun s r => { r with state := s },
  .of "queued_at" .inList (optional Instant.reader) fun t r => { r with queuedAt := t },
  .of "consumed_at" .inList (optional Instant.reader) fun t r => { r with consumedAt := t },
  .of "run_at" .inList (optional Instant.reader) fun t r => { r with runAt := t },
  .of "finished_at" .inList (optional Instant.reader) fun t r => { r with finishedAt := t },
  .of "error_info" .never (optional text) fun s r => { r with errorInfo := s }]

/-- The record that is read into. -/
def blank : Outcome where
  taskClass := ""
  state := .success

end Runner.Outcome

namespace Croner.Outcome

/-- The members of a record in order. -/
def tree (r : Outcome) : Tree :=
  .object [
    ("task_class", .text r.taskClass),
    ("task_param", .optional .text r.taskParam),
    ("run_target", .optional .text r.runTarget),
    ("state", .natural r.state.code),
    ("scheduled_at", .optional Instant.tree r.scheduledAt),
    ("run_at", .optional Instant.tree r.runAt),
    ("finished_at", .optional Instant.tree r.finishedAt),
    ("next_at", .optional Instant.tree r.nextAt),
    ("error_info", .optional .text r.errorInfo)]

/-- The fields of a record in the order of a list. -/
def fields : Fields BadCode Outcome := [
  .of "task_class" .always text fun s r => { r with taskClass := s },
  .of "task_param" .never (optional text) fun s r => { r with taskParam := s },
  .of "run_target" .never (optional text) fun s r => { r with runTarget := s },
  .of "state" .always (stateReader State.ofCode?) fun s r => { r with state := s },
  .of "scheduled_at" .inList (optional Instant.reader) fun t r => { r with scheduledAt := t },
  .of "run_at" .inList (optional Instant.reader) fun t r => { r with runAt := t },
  .of "finished_at" .inList (optional Instant.reader) fun t r => { r with finishedAt := t },
  .of "next_at" .inList (optional Instant.reader) fun t r => { r with nextAt := t },
  .of "error_info" .never (optional text) fun s r => { r with errorInfo := s }]

/-- The record that is read into. -/
def blank : Outcome where
  taskClass := ""
  state := .success

end Croner.Outcome

namespace Record

/-- The members of a record in order. -/
def tree : {k : Kind} → Record k → Tree
  | .runner, r => Runner.Outcome.tree r
  | .croner, r => Croner.Outcome.tree r

/-- The text of a record. -/
def line {k : Kind} (r : Record k) : String :=
  String.ofList r.tree.compact

/-- Reads a record of the given kind. -/
def reader : (k : Kind) → Reader BadCode (Record k)
  | .runner => record Runner.Outcome.fields Runner.Outcome.blank
  | .croner => record Croner.Outcome.fields Croner.Outcome.blank

/-- The record that a whole text stands for, or its first fault. -/
def ofText (k : Kind) (s : String) : Except (Fault BadCode) (Record k) :=
  document (reader k) s

end Record

end TaskLedger
