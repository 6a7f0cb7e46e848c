import TaskLedger.Outcome.Codec

/-!
# Batches

A batch is a list of records of one kind, the unit in which records are shipped.
-/

namespace TaskLedger

/-- Records of one kind in order. -/
structure Batch where
  kind : Kind
  records : List (Record kind)
  deriving DecidableEq

namespace Batch

/-- The number of records. -/
def size (batch : Batch) : Nat :=
  batch.records.length

/-- Whether there is no record. -/
def isEmpty (batch : Batch) : Bool :=
  batch.records.isEmpty

/-- The kind and the records of a batch. -/
def tree (batch : Batch) : Json.Tree :=
  .object [("kind", .text batch.kind.name), ("records", .list (batch.records.map Record.tree))]

/-- The text of a batch. -/
def line (batch : Batch) : String :=
  String.ofList batch.tree.compact

theorem isEmpty_iff_size {batch : Batch} : batch.isEmpty = true ↔ batch.size = 0 := by
  simp [isEmpty, size]

end Batch

end TaskLedger
