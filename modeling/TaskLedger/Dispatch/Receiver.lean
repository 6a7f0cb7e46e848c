import TaskLedger.Sink.Basic

/-!
# Receivers

A receiver is a sink as a worker sees it.  It may also hold its worker until it is released, and it
may crash.

* `Receiver.receive` is what becomes of a batch at once;
* `Receiver.finish` is what becomes of a batch that is not held, or not held any longer.

`Receiver.ofSink` is a sink as a receiver, which never holds and never crashes.  `Script.receiver`
does what it was told before.
-/

namespace TaskLedger

/-- How a shipment ended: the batch was taken, or the sink failed or crashed. -/
inductive Ending where
  | stored
  | refused
  | crashed
  deriving DecidableEq, Repr

/-- What becomes of a batch at once: its shipment ends, or it is held until it is released. -/
inductive Reception where
  | ended (ending : Ending)
  | held
  deriving DecidableEq, Repr

/-- A sink as a worker sees it: its name, what becomes of a batch at once, and how the shipment of a
batch ends that is held no longer. -/
structure Receiver (σ : Type) where
  name : String
  receive : Batch → σ → Reception × σ
  finish : Batch → σ → Ending × σ

namespace Receiver

variable {σ : Type}

/-- How the shipment of a batch to a sink ends. -/
def deliver (sink : Sink σ) (batch : Batch) (world : σ) : Ending × σ :=
  let (delivery, world) := sink.persist batch world
  (if delivery.fault.isNone then .stored else .refused, world)

/-- A sink as a receiver. -/
def ofSink (sink : Sink σ) : Receiver σ where
  name := sink.name
  receive batch world :=
    let (ending, world) := deliver sink batch world
    (.ended ending, world)
  finish := deliver sink

/-- What becomes of a batch that cannot be held. -/
def atOnce (receiver : Receiver σ) (batch : Batch) (world : σ) : Ending × σ :=
  match receiver.receive batch world with
  | (.ended ending, world) => (ending, world)
  | (.held, world) => receiver.finish batch world

end Receiver

/-- What a scripted receiver does with the batches that come: it keeps them, it refuses them, it
crashes, or it holds them until they are released, and keeps them then. -/
inductive Script.Mode where
  | keep
  | refuse
  | crash
  | hold
  deriving DecidableEq, Repr

/-- What a scripted receiver does with the batches that come, and the batches that it kept, in
order. -/
structure Script where
  mode : Script.Mode
  kept : List Batch := []

namespace Script

/-- Keeps a batch. -/
def keepBatch (batch : Batch) (s : Script) : Script :=
  { s with kept := s.kept ++ [batch] }

/-- A receiver that does what it was told before. -/
def receiver (name : String) : Receiver Script where
  name := name
  receive batch s :=
    match s.mode with
    | .keep => (.ended .stored, s.keepBatch batch)
    | .refuse => (.ended .refused, s)
    | .crash => (.ended .crashed, s)
    | .hold => (.held, s)
  finish batch s := (.stored, s.keepBatch batch)

end Script

end TaskLedger
