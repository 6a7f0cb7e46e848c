import TaskLedger.Dispatch.Receiver
import TaskLedger.Metrics.Pipeline
import TaskLedger.Pool.Interleaving

/-!
# Dispatchers

A dispatcher ships batches to a receiver with a crew of workers, and keeps count of what became of
them.

* `Dispatcher.submitTo` ships a batch at a given place, unless it is empty, and `Dispatcher.submit`
  at the place of the next job;
* `Dispatcher.releaseAt` lets a batch go that is held, and `Dispatcher.release` the oldest one of a
  kind;
* `Dispatcher.close` closes the crew.

A failure never reaches the caller: it is counted, and the batch is lost.
-/

namespace TaskLedger

/-- What became of the batches of a dispatcher.  The batches that are not empty are submitted, and
the caller ran some of them; the empty ones are skipped.  The batches that the receiver took are
persisted, and those that were lost failed; for both the records in them are told as well. -/
structure Totals where
  submitted : Nat := 0
  callerRuns : Nat := 0
  skipped : Nat := 0
  persistedBatches : Nat := 0
  persistedRecords : Nat := 0
  failedBatches : Nat := 0
  failedRecords : Nat := 0
  deriving DecidableEq, Repr

namespace Totals

/-- The batches whose shipment ended. -/
def completed (t : Totals) : Nat :=
  t.persistedBatches + t.failedBatches

/-- Counts the end of a shipment. -/
def countEnd (t : Totals) (ending : Ending) (batch : Batch) : Totals :=
  match ending with
  | .stored =>
    { t with
      persistedBatches := t.persistedBatches + 1
      persistedRecords := t.persistedRecords + batch.size }
  | .refused | .crashed =>
    { t with
      failedBatches := t.failedBatches + 1
      failedRecords := t.failedRecords + batch.size }

end Totals

/-- Ships batches to a receiver, which acts on a world.  The workers of the crew hold batches. -/
structure Dispatcher (σ : Type) where
  limits : Limits
  receiver : Receiver σ
  world : σ
  crew : Crew Batch := {}
  totals : Totals := {}

namespace Dispatcher

variable {σ : Type}

/-- The observation that a shipment ended. -/
def shipped (d : Dispatcher σ) (ending : Ending) (batch : Batch) : Observation :=
  .shipped d.receiver.name batch.kind (ending = .stored) batch.size

/-- The observation of the crew. -/
def watched (d : Dispatcher σ) : Observation :=
  .crew d.crew.live d.crew.idle d.crew.busy

/-- Ships a batch that is not empty with the caller. -/
def shipHere (d : Dispatcher σ) (batch : Batch) : Dispatcher σ × List Observation :=
  let (ending, world) := d.receiver.atOnce batch d.world
  let totals := d.totals.countEnd ending batch
  ({ d with world, totals := { totals with callerRuns := totals.callerRuns + 1 } },
    [d.shipped ending batch])

/-- Ships a batch that is not empty with a worker.  The batch is told if it is held. -/
def shipThere (d : Dispatcher σ) (batch : Batch) :
    Option Batch × Dispatcher σ × List Observation :=
  match d.receiver.receive batch d.world with
  | (.ended ending, world) =>
    (none, { d with world, totals := d.totals.countEnd ending batch }, [d.shipped ending batch])
  | (.held, world) => (some batch, { d with world }, [])

/-- Ships a batch that is not empty. -/
def ship (d : Dispatcher σ) (place : Submission) (batch : Batch) :
    Dispatcher σ × List Observation :=
  let (held, next, seen) :=
    if place = .callerRan then (none, d.shipHere batch)
    else d.shipThere batch
  let crew := d.crew.submitTo d.limits place held
  let next := { next with crew, totals := { next.totals with submitted := d.totals.submitted + 1 } }
  (next, seen ++ [.submitted batch.kind place.name, next.watched])

/-- Ships a batch at a given place; an empty one is skipped. -/
def submitTo (d : Dispatcher σ) (place : Submission) (batch : Batch) :
    Submission × Dispatcher σ × List Observation :=
  if batch.isEmpty then
    (.skipped, { d with totals := { d.totals with skipped := d.totals.skipped + 1 } },
      [.submitted batch.kind Submission.skipped.name])
  else (place, d.ship place batch)

/-- Where the next batch goes, unless it is empty. -/
def place (d : Dispatcher σ) : Submission :=
  d.crew.place d.limits

/-- Ships a batch; an empty one is skipped. -/
def submit (d : Dispatcher σ) (batch : Batch) : Submission × Dispatcher σ × List Observation :=
  d.submitTo d.place batch

/-- Where a second batch goes when nobody has picked up the first one yet. -/
def placeBehind (d : Dispatcher σ) (first : Batch) : Submission :=
  if first.isEmpty then d.place else d.crew.placeBehind d.limits first

/-- Lets a batch go, given by its place among those that are held, and tells whether there was
one. -/
def releaseAt (d : Dispatcher σ) (index : Nat) : Bool × Dispatcher σ × List Observation :=
  match d.crew.releaseAt d.limits index with
  | (none, crew) => (false, { d with crew }, [])
  | (some batch, crew) =>
    let (ending, world) := d.receiver.finish batch d.world
    (true, { d with crew, world, totals := d.totals.countEnd ending batch },
      [d.shipped ending batch])

/-- Lets the oldest batch go that is held, of the given kind or of any, and tells whether there was
one. -/
def release (d : Dispatcher σ) (kind : Option Kind) : Bool × Dispatcher σ × List Observation :=
  d.releaseAt (d.crew.held.findIdx fun batch => kind.all (· = batch.kind))

/-- Whether no batch is held. -/
def isDone (d : Dispatcher σ) : Bool :=
  d.crew.isDone

/-- Closes the crew. -/
def close (d : Dispatcher σ) : Dispatcher σ :=
  { d with crew := d.crew.close d.limits }

end Dispatcher

end TaskLedger
