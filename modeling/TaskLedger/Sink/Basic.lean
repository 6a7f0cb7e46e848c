import TaskLedger.Journal
import TaskLedger.Outcome.Batch
import TaskLedger.Sink.Fault

/-!
# Sinks

A sink takes batches and acts on a world of some type with each of them.

* `Sink.persist` is what a sink does with a batch: it changes the world, may fail, and may raise
  events in the journal;
* `Sink.all` gives a batch to every sink of a list in order, also to those behind one that fails,
  and fails as the first of them that failed;
* `Sink.fanout` is a list of sinks as one sink.
-/

namespace TaskLedger

/-- What came of a batch: why it was not taken, if it was not, and the events that were raised. -/
structure Delivery where
  fault : Option SinkFault := none
  events : List Event := []
  deriving DecidableEq

/-- Something with a name that takes batches, with what it does with one. -/
structure Sink (σ : Type) where
  name : String
  persist : Batch → σ → Delivery × σ

namespace Delivery

/-- The event that one of several sinks failed. -/
def warning (sink : String) (fault : SinkFault) : Event where
  severity := .warning
  fields := [("sink", .text sink), ("error", .text fault.message),
    ("message", .text "Inner sink failed")]

/-- What came of a batch at one of several sinks, and later at those behind it. -/
def andThen (sink : String) (first later : Delivery) : Delivery where
  fault := first.fault <|> later.fault
  events := first.events ++ (first.fault.map (warning sink)).toList ++ later.events

end Delivery

namespace Sink

variable {σ : Type}

/-- Gives a batch to every sink in order. -/
def all (sinks : List (Sink σ)) (batch : Batch) (world : σ) : Delivery × σ :=
  match sinks with
  | [] => ({}, world)
  | sink :: later =>
    let (first, world) := sink.persist batch world
    let (rest, world) := all later batch world
    (first.andThen sink.name rest, world)

/-- Several sinks as one. -/
def fanout (name : String) (sinks : List (Sink σ)) : Sink σ where
  name := name
  persist := all sinks

theorem all_cons (sink : Sink σ) (sinks : List (Sink σ)) (batch : Batch) (world : σ) :
    all (sink :: sinks) batch world =
      let (first, world) := sink.persist batch world
      let (rest, world) := all sinks batch world
      (first.andThen sink.name rest, world) := rfl

end Sink

end TaskLedger
