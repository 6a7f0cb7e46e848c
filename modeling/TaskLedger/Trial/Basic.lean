import TaskLedger.Statistics.Run

/-!
# Trials

A trial feeds a ledger and looks after its flushes.  What happens is a list of events in any order:
records are produced, a kind is flushed, or a held batch is released.

* `Trial.step` is one event, `Trial.run` a list of them;
* `Trial.finish` flushes both kinds once more and shuts the ledger down.

A trial fails with a flush that unwinds.  Then it is not looked after any more: nothing is flushed,
and there are no statistics in the end.
-/

namespace TaskLedger

/-- A ledger that is fed, what is known of the run so far, and whether a flush unwound. -/
structure Trial (σ : Type) where
  ledger : Ledger σ
  statistics : RunStatistics := {}
  failed : Bool := false

/-- What happens in a trial: a record is produced, the records of a kind are flushed, or the oldest
batch is released that is held. -/
inductive TrialEvent where
  | produce (kind : Kind) (record : Record kind)
  | flush (kind : Kind)
  | release

namespace Trial

variable {σ : Type}

/-- Produces a record. -/
def produce (t : Trial σ) (k : Kind) (r : Record k) : Trial σ :=
  { t with
    ledger := t.ledger.record k r
    statistics := { t.statistics with
      produced := t.statistics.produced.set k (t.statistics.produced.get k + 1) } }

/-- Flushes a kind, unless the trial has failed. -/
def flush (t : Trial σ) (k : Kind) : Trial σ :=
  if t.failed then t
  else match t.ledger.flush k with
    | (.nothing, ledger) => { t with ledger }
    | (.report report, ledger) => { t with ledger, statistics := t.statistics.add report }
    | (.unwound, ledger) => { t with ledger, failed := true }

/-- One event. -/
def step (t : Trial σ) : TrialEvent → Trial σ
  | .produce k r => t.produce k r
  | .flush k => t.flush k
  | .release => { t with ledger := (t.ledger.release none).2 }

/-- Events in order. -/
def run (t : Trial σ) (events : List TrialEvent) : Trial σ :=
  events.foldl step t

/-- The name of a counter in the statistics. -/
def counterName (k : Kind) (name : String) : String :=
  k.name ++ "." ++ name

/-- The counters of both kinds by their names in the statistics. -/
def counters (books : Books) : Std.TreeMap String Int :=
  Std.TreeMap.ofList (Kind.all.flatMap fun k =>
    (books.of k).toList.map fun (name, total) => (counterName k name, total))

/-- The statistics of a trial whose ledger was shut down. -/
def told (s : RunStatistics) (ledger : Ledger σ) (interrupted drained : Bool) (nanos : Nat) :
    RunStatistics :=
  { s with
    nanos, interrupted, drained
    sink := ledger.dispatcher.receiver.name
    totals := ledger.dispatcher.totals
    counters := counters ledger.books }

/-- The end of a trial: both kinds are flushed and the ledger is shut down.  The statistics are
told unless a flush unwinds or has unwound before. -/
def finish (t : Trial σ) (interrupted : Bool) (nanos : Nat) : Option RunStatistics × Ledger σ :=
  let t := (t.flush .runner).flush .croner
  if t.failed then (none, t.ledger)
  else
    let (drained, ledger) := t.ledger.shutdown
    (drained.map fun drained => told t.statistics ledger interrupted drained nanos, ledger)

theorem run_append (t : Trial σ) (before after : List TrialEvent) :
    t.run (before ++ after) = (t.run before).run after :=
  List.foldl_append ..

end Trial

end TaskLedger
