import TaskLedger.Buffer
import TaskLedger.Dispatch.Dispatcher
import TaskLedger.Ledger.Books
import TaskLedger.Selection
import TaskLedger.Sink.Route
import TaskLedger.Tally.Aggregation

/-!
# The ledger

A ledger buffers records.  A flush takes the records of one kind out of their buffer, writes their
counters to the books and ships those whose level asks for it.

* `Ledger.record` buffers a record;
* `Ledger.detach` takes the records of a kind out, and `Ledger.post` counts and ships them;
* `Ledger.flush` does both, unless there is no record;
* `Ledger.shutdown` flushes both kinds and closes the crew.

Where the store of the kind refuses a counter, the flush unwinds.  What was written until then stays
written, but nothing is observed or shipped, and a shutdown of which it is a part goes no further.
The ledger can be used as before.

A batch goes where the crew has a place for it.  Only in a shutdown it may come too fast: it is
submitted while the batch before it is still under way to its worker.
-/

namespace TaskLedger

/-- What a flush did: the kind and the number of the records, how many categories they belong to,
how often a counter was written, how many records were to be shipped, and where they went. -/
structure FlushReport where
  kind : Kind
  records : Nat
  categories : Nat
  written : Nat
  selected : Nat
  submission : Submission
  deriving DecidableEq, Repr

/-- What a flush answers. -/
inductive FlushAnswer where
  | nothing
  | report (report : FlushReport)
  | unwound
  deriving DecidableEq, Repr

namespace FlushAnswer

/-- The report of a flush that took records and did not unwind. -/
def report? : FlushAnswer → Option FlushReport
  | report r => some r
  | _ => none

/-- Whether the flush unwinds. -/
def unwinds (answer : FlushAnswer) : Bool :=
  answer = unwound

end FlushAnswer

/-- A ledger whose receiver acts on a world of type `σ`.  The levels of either kind say what the
dispatcher ships, the books have the counters, the buffers the records that wait for the next flush,
and the registry the measured values. -/
structure Ledger (σ : Type) where
  dispatcher : Dispatcher σ
  levels : PerKind fun _ => Lookup
  books : Books
  buffers : PerKind fun k => Buffer (Record k) := ⟨.empty, .empty⟩
  registry : Registry := {}

namespace Ledger

variable {σ : Type}

/-- How many records of a kind wait for the next flush. -/
def pending (l : Ledger σ) (k : Kind) : Nat :=
  (l.buffers.get k).size

/-- The ledger after something was observed. -/
def observe (l : Ledger σ) (seen : List Observation) : Ledger σ :=
  { l with registry := l.registry.observeAll seen }

/-- Buffers a record. -/
def record (l : Ledger σ) (k : Kind) (r : Record k) : Ledger σ :=
  { l with buffers := l.buffers.set k ((l.buffers.get k).append r.normal) }.observe [.appended k]

/-- Takes the records of a kind out of their buffer, if there are any. -/
def detach (l : Ledger σ) (k : Kind) : Option (List (Record k)) × Ledger σ :=
  let (records, buffer) := (l.buffers.get k).detach
  (records, { l with buffers := l.buffers.set k buffer })

/-- What is observed of the categories of some records. -/
def announcements {k : Kind} (a : Aggregation k) (records : Nat) : List Observation :=
  a.nextRuns.map (fun run => .nextRun run.1 run.2.unixSeconds) ++ [.flushed k records a.size]

/-- The records of a kind whose level asks for it. -/
def batch (l : Ledger σ) (k : Kind) (records : List (Record k)) : Batch :=
  ⟨k, (l.levels.get k).select records⟩

/-- Whether the store of a kind takes all counters of some records. -/
def accepts (l : Ledger σ) (k : Kind) (records : List (Record k)) : Bool :=
  (l.books.of k).takes (Aggregation.ofRecords records).entries

/-- Counts records and ships those whose level asks for it at a given place, unless the counting
unwinds. -/
def postTo (l : Ledger σ) (place : Submission) (k : Kind) (records : List (Record k)) :
    FlushAnswer × Ledger σ :=
  let a := Aggregation.ofRecords records
  let books := l.books.update k a.emit
  if l.accepts k records then
    let batch := l.batch k records
    let (submission, dispatcher, seen) := l.dispatcher.submitTo place batch
    let report := ⟨k, records.length, a.size, a.entries.length, batch.size, submission⟩
    (.report report, { l with dispatcher, books }.observe
      (announcements a records.length ++ seen))
  else (.unwound, { l with books })

/-- Counts records and ships those whose level asks for it, unless the counting unwinds. -/
def post (l : Ledger σ) (k : Kind) (records : List (Record k)) : FlushAnswer × Ledger σ :=
  l.postTo l.dispatcher.place k records

/-- Counts the records of a kind and ships them at a given place, if there are any. -/
def flushTo (l : Ledger σ) (place : Submission) (k : Kind) : FlushAnswer × Ledger σ :=
  match l.detach k with
  | (none, _) => (.nothing, l)
  | (some records, l) => l.postTo place k records

/-- Counts and ships the records of a kind, if there are any. -/
def flush (l : Ledger σ) (k : Kind) : FlushAnswer × Ledger σ :=
  l.flushTo l.dispatcher.place k

/-- The batch that a flush submits, if there are records and it does not unwind. -/
def outgoing (l : Ledger σ) (k : Kind) : Option Batch :=
  ((l.detach k).1.filter (l.accepts k)).map (l.batch k)

/-- Where a batch goes that is submitted right behind that of a flush, which nobody has picked up
yet. -/
def placeBehind (l : Ledger σ) (k : Kind) : Submission :=
  match l.outgoing k with
  | some batch => l.dispatcher.placeBehind batch
  | none => l.dispatcher.place

/-- Lets the oldest batch go that is held, of the given kind or of any, and tells whether there was
one. -/
def release (l : Ledger σ) (kind : Option Kind) : Bool × Ledger σ :=
  let (yes, dispatcher, seen) := l.dispatcher.release kind
  (yes, { l with dispatcher }.observe seen)

/-- Whether no batch is held. -/
def isDone (l : Ledger σ) : Bool :=
  l.dispatcher.isDone

/-- Closes the crew. -/
def close (l : Ledger σ) : Ledger σ :=
  { l with dispatcher := l.dispatcher.close }

/-- Where the second batch of a shutdown goes.  In haste nobody picks up the first one before. -/
def secondPlace (l : Ledger σ) (haste : Bool) : Submission :=
  if haste then l.placeBehind .runner else (l.flush .runner).2.dispatcher.place

/-- Flushes both kinds, in haste or not, and tells the answers.  If the first flush unwinds, there
is no second one. -/
def flushBoth (l : Ledger σ) (haste : Bool) : List FlushAnswer × Ledger σ :=
  let place := l.secondPlace haste
  let (first, l) := l.flush .runner
  if first.unwinds then ([first], l)
  else
    let (second, l) := l.flushTo place .croner
    ([first, second], l)

/-- Flushes both kinds, in haste or not, tells whether no batch is held, and closes the crew.  If a
flush unwinds, nothing is told and the crew stays open. -/
def shutdown (l : Ledger σ) (haste : Bool := false) : Option Bool × Ledger σ :=
  let (answers, l) := l.flushBoth haste
  if answers.any FlushAnswer.unwinds then (none, l) else (some l.isDone, l.close)

/-- A ledger that nothing was recorded in, whose batches go to a receiver. -/
def opened (limits : Limits) (levels : PerKind fun _ => Lookup) (books : Books)
    (receiver : Receiver σ) (world : σ) : Ledger σ where
  dispatcher := { limits, receiver, world }
  levels
  books

/-- A ledger with the given settings whose batches go to a receiver. -/
def withReceiver (settings : Settings) (books : Books) (receiver : Receiver σ) (world : σ) :
    Ledger σ :=
  opened (.ofSettings settings.crew) ⟨settings.runnerLevels.lookup, settings.cronerLevels.lookup⟩
    books receiver world

/-- A ledger with the given settings whose batches go to the configured sinks. -/
def ofSettings (settings : Settings) (books : Books) (world : World) :
    Except LedgerFault (Ledger World) :=
  match Sink.route settings.sinks world with
  | .error fault => .error (.route fault)
  | .ok (sink, world) => .ok (withReceiver settings books (.ofSink sink) world)

/-- All records of a kind are detached, if there are any, and nothing else happens. -/
theorem detach_cases (l : Ledger σ) (k : Kind) :
    ((l.buffers.get k).toList = [] ∧ (l.detach k).1 = none) ∨
    ((l.buffers.get k).toList ≠ [] ∧ l.detach k =
      (some (l.buffers.get k).toList, { l with buffers := l.buffers.set k .empty })) := by
  unfold detach Buffer.detach
  cases he : (l.buffers.get k).isEmpty with
  | true => exact Or.inl ⟨(Buffer.isEmpty_iff _).1 he, rfl⟩
  | false =>
    refine Or.inr ⟨fun nothing => ?_, rfl⟩
    rw [(Buffer.isEmpty_iff _).2 nothing] at he
    cases he

/-- What is detached is all that was buffered. -/
theorem eq_of_detach {l next : Ledger σ} {k : Kind} {records : List (Record k)}
    (took : l.detach k = (some records, next)) :
    records = (l.buffers.get k).toList ∧ next = { l with buffers := l.buffers.set k .empty } := by
  rcases l.detach_cases k with ⟨-, absent⟩ | ⟨-, present⟩
  · rw [took] at absent
    cases absent
  · rw [took] at present
    cases present
    exact ⟨rfl, rfl⟩

/-- If nothing is detached, nothing was buffered. -/
theorem nil_of_detach {l : Ledger σ} {k : Kind} (absent : (l.detach k).1 = none) :
    (l.buffers.get k).toList = [] := by
  rcases l.detach_cases k with ⟨nothing, -⟩ | ⟨-, present⟩
  · exact nothing
  · rw [present] at absent
    cases absent

/-- A flush posts what it detaches. -/
theorem flush_eq (l : Ledger σ) (k : Kind) : l.flush k =
    match l.detach k with
    | (none, _) => (.nothing, l)
    | (some records, l) => l.post k records := by
  rw [flush, flushTo]
  rcases took : l.detach k with ⟨_ | records, next⟩
  · rfl
  · have same : next.dispatcher = l.dispatcher := congrArg (·.2.dispatcher) took.symm
    simp only [post, same]

end Ledger

end TaskLedger
