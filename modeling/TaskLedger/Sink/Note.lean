import TaskLedger.Sink.Basic
import TaskLedger.Text.Decimal

/-!
# Sinks that write to the journal

`Sink.journal` notes how large a batch is, how many of its records are failures and how many classes
they belong to.  Of tasks it also notes every failure.
-/

namespace TaskLedger

open Text

namespace Batch

/-- The number of failures in a batch. -/
def failures (batch : Batch) : Nat :=
  batch.records.countP Record.isFailure

/-- The number of different classes in a batch. -/
def classes (batch : Batch) : Nat :=
  (batch.records.map Record.taskClass).eraseDups.length

/-- The event that a sink took a batch. -/
def received (sink : String) (batch : Batch) : Event where
  severity := .info
  fields := [("sink", .text sink), ("kind", .text batch.kind.name), ("records", .number batch.size),
    ("failures", .number batch.failures), ("task_classes", .number batch.classes),
    ("message", .text "Log batch received")]

end Batch

/-- The number of a task as the journal shows it. -/
def taskIdText : Option UInt64 → String
  | none => "None"
  | some id => "Some(" ++ Decimal.text id.toNat ++ ")"

/-- The event that a task failed. -/
def Runner.Outcome.failed (sink : String) (r : Runner.Outcome) : Event where
  severity := .debug
  fields := [("sink", .text sink), ("task_class", .text r.taskClass),
    ("task_id", .text (taskIdText r.taskId)), ("state", .number r.state.code),
    ("error", .text (r.errorInfo.getD "")), ("message", .text "Failed task")]

/-- The events for the failures in a list of records; there are none for scheduled jobs. -/
def failureEvents (sink : String) : (k : Kind) → List (Record k) → List Event
  | .runner, records => (records.filter Record.isFailure).map (Runner.Outcome.failed sink)
  | .croner, _ => []

/-- A sink that writes to the journal. -/
def Sink.journal {σ : Type} (name : String) : Sink σ where
  name := name
  persist batch world :=
    ({ events := batch.received name :: failureEvents name batch.kind batch.records }, world)

end TaskLedger
