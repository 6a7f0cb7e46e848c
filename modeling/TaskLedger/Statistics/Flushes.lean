import TaskLedger.Outcome.Kind
import TaskLedger.Statistics.Running

/-!
# Statistics of flushes

For each kind the flushes are counted, the records in them, and those of the records that were
shipped; the sizes of the flushes have running statistics.
-/

namespace TaskLedger

/-- The flushes of one kind: how many there were, how many records they had, how many of these were
shipped, and the sizes of the flushes. -/
structure KindFlushes where
  flushes : Nat := 0
  records : Nat := 0
  shipped : Nat := 0
  sizes : Running := Running.empty

/-- The flushes of a kind with one more. -/
def KindFlushes.add (f : KindFlushes) (records shipped : Nat) : KindFlushes where
  flushes := f.flushes + 1
  records := f.records + records
  shipped := f.shipped + shipped
  sizes := f.sizes.push (Running.share records)

/-- The flushes of both kinds. -/
structure Flushes where
  runner : KindFlushes := {}
  croner : KindFlushes := {}

namespace Flushes

/-- The flushes of a kind. -/
def of (f : Flushes) : Kind → KindFlushes
  | .runner => f.runner
  | .croner => f.croner

/-- The flushes with one more. -/
def add (f : Flushes) (kind : Kind) (records shipped : Nat) : Flushes :=
  match kind with
  | .runner => { f with runner := f.runner.add records shipped }
  | .croner => { f with croner := f.croner.add records shipped }

/-- The flushes of a kind in a few lines. -/
def text (f : Flushes) (kind : Kind) : String :=
  "=== " ++ kind.name ++ " flush summary ===\n"
    ++ "Flushes: " ++ Text.Decimal.text (f.of kind).flushes ++ "\n"
    ++ "Records flushed: " ++ Text.Decimal.text (f.of kind).records ++ "\n"
    ++ "Records shipped: " ++ Text.Decimal.text (f.of kind).shipped ++ "\n"
    ++ "Batch size: " ++ (f.of kind).sizes.text ++ "\n"

theorem of_add (f : Flushes) (kind other : Kind) (records shipped : Nat) :
    (f.add kind records shipped).of other =
      if kind = other then (f.of other).add records shipped else f.of other := by
  cases kind <;> cases other <;> rfl

end Flushes

end TaskLedger
