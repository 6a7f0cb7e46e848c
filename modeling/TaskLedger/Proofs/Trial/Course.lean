import Mathlib
import TaskLedger.Proofs.Ledger.Closing
import TaskLedger.Proofs.Trial.Counters

/-!
# The course of a trial

While a trial goes on, any number of producers record, and a keeper flushes at times of his own.
When the trial is over he waits for the producers to leave, flushes both kinds once more, and shuts
the ledger down.  Nobody waits for anybody else otherwise: between any two things that the keeper
does, producers record, batches are released, and the world of the receiver changes.  If the keeper
unwinds because the store refuses a counter, the course has failed: he does nothing any more.

* `Course.Goes`: what may happen next, and `Course.Leads`: what may happen in the end;
* `Course.result?`: the statistics that are told when the keeper is done;
* `Course.Kept`: what was made, posted, counted and reported;
* `Course.Ordered`: what the keeper has done when he comes to the next thing;
* `Course.Sound` puts both together as long as the course has not failed, and `Course.Sound.goes`
  keeps it up, whatever happens next;
* `Course.refused_of_failed`: a course fails only at records that the store refuses.
-/

namespace TaskLedger

open scoped List

variable {σ : Type}

/-! ### What may happen -/

/-- A producer: how many records of either kind it has recorded, and whether it has left. -/
structure Producer where
  tally : PerKind fun _ => Nat := ⟨0, 0⟩
  gone : Bool := false

/-- Something that the keeper of a trial has to do: wait for the producers to leave and add up what
they recorded, flush a kind, or shut the ledger down. -/
inductive Duty where
  | join
  | flush (k : Kind)
  | close
  deriving DecidableEq

/-- What the keeper has to do when the trial is over. -/
def Duty.ending : List Duty :=
  [.join, .flush .runner, .flush .croner, .close]

/-- A trial while it goes on: the ledger and the producers, what the keeper has to do next in order,
the records that he has detached and not posted, what he knows of the trial, and whether he has
failed; whether the trial was stopped from outside, if it is over; and what was recorded, in
order. -/
structure Course (σ : Type) where
  ledger : Ledger σ
  producers : List Producer
  duties : List Duty := []
  carried : Option Batch := none
  statistics : RunStatistics := {}
  failed : Bool := false
  stopped : Option Bool := none
  made : PerKind fun k => List (Record k) := ⟨[], []⟩

namespace Course

/-- A producer records. -/
def produce (c : Course σ) (i : Nat) (p : Producer) (k : Kind) (r : Record k) : Course σ :=
  { c with
    ledger := c.ledger.record k r
    producers := c.producers.set i { p with tally := p.tally.set k (p.tally.get k + 1) }
    made := c.made.set k (c.made.get k ++ [r]) }

/-- The keeper posts the records that he carries, and notes the report. -/
def post (c : Course σ) (batch : Batch) (place : Submission) : Course σ :=
  { c with
    ledger := c.ledger.posted place batch.kind batch.records
    carried := none
    statistics := c.statistics.add (c.ledger.reportOf place batch.kind batch.records) }

/-- The keeper unwinds, and leaves a ledger behind. -/
def fail (c : Course σ) (ledger : Ledger σ) : Course σ :=
  { c with ledger, duties := [], carried := none, failed := true }

/-- The keeper adds up what the producers recorded. -/
def join (c : Course σ) (duties : List Duty) : Course σ :=
  { c with
    duties
    statistics := { c.statistics with
      produced := ⟨(c.producers.map (·.tally.runner)).sum,
        (c.producers.map (·.tally.croner)).sum⟩ } }

/-- The keeper has shut the ledger down and notes whether no batch is held. -/
def close (c : Course σ) (duties : List Duty) (drained : Bool) (ledger : Ledger σ) : Course σ :=
  { c with duties, ledger, statistics := { c.statistics with drained } }

/-- What may happen next.  A producer records, or it leaves when the trial is over.  It is time to
flush some kinds, or the trial is over.  The keeper finds no records to flush, or detaches them; he
posts the records that he carries, whose batch goes anywhere, or they are spilled and he fails; when
all producers have left he adds up what they recorded; he shuts the ledger down while some batches
are released, or fails doing so.  A batch is released, given by its place among those that are held.
The world of the receiver changes by itself. -/
inductive Goes (c : Course σ) : Course σ → Prop where
  | produce {i : Nat} {p : Producer} (found : c.producers[i]? = some p) (busy : p.gone = false)
    (k : Kind) (r : Record k) : Goes c (c.produce i p k r)
  | leave {i : Nat} {p : Producer} (found : c.producers[i]? = some p) (ended : c.stopped ≠ none) :
    Goes c { c with producers := c.producers.set i { p with gone := true } }
  | tick (running : c.stopped = none) (idle : c.duties = []) (free : c.carried = none)
    (well : c.failed = false) (kinds : List Kind) : Goes c { c with duties := kinds.map .flush }
  | stop (running : c.stopped = none) (idle : c.duties = []) (free : c.carried = none)
    (well : c.failed = false) (interrupted : Bool) :
    Goes c { c with stopped := some interrupted, duties := Duty.ending }
  | pass {k : Kind} {duties : List Duty} (next : c.duties = .flush k :: duties)
    (free : c.carried = none) (absent : (c.ledger.detach k).1 = none) : Goes c { c with duties }
  | detach {k : Kind} {duties : List Duty} (next : c.duties = .flush k :: duties)
    (free : c.carried = none) {records : List (Record k)} {ledger : Ledger σ}
    (took : c.ledger.detach k = (some records, ledger)) :
    Goes c { c with ledger, duties, carried := some ⟨k, records⟩ }
  | post {batch : Batch} (has : c.carried = some batch)
    (all : c.ledger.accepts batch.kind batch.records = true) (place : Submission)
    (there : place ≠ .skipped) : Goes c (c.post batch place)
  | spill {batch : Batch} (has : c.carried = some batch)
    (refused : c.ledger.accepts batch.kind batch.records = false) :
    Goes c (c.fail (c.ledger.spilled batch.kind batch.records))
  | join {duties : List Duty} (next : c.duties = .join :: duties)
    (gone : ∀ p ∈ c.producers, p.gone = true) : Goes c (c.join duties)
  | close {duties : List Duty} (next : c.duties = .close :: duties) (free : c.carried = none)
    (haste : Bool) (releases : List Nat) {drained : Bool} {ledger : Ledger σ}
    (shut : c.ledger.shutdownAmid haste releases = (some drained, ledger)) :
    Goes c (c.close duties drained ledger)
  | unwind {duties : List Duty} (next : c.duties = .close :: duties) (free : c.carried = none)
    (haste : Bool) (releases : List Nat) {ledger : Ledger σ}
    (shut : c.ledger.shutdownAmid haste releases = (none, ledger)) : Goes c (c.fail ledger)
  | release (index : Nat) : Goes c { c with ledger := c.ledger.releaseAt index }
  | stir (change : σ → σ) : Goes c { c with ledger := c.ledger.stir change }

/-- What may happen in the end. -/
def Leads (c d : Course σ) : Prop :=
  Relation.ReflTransGen Goes c d

/-- A trial with a ledger and some producers. -/
def opened (ledger : Ledger σ) (producers : Nat) : Course σ where
  ledger
  producers := .replicate producers {}

/-- The statistics that are told when the keeper is done and has not failed. -/
def result? (c : Course σ) (nanos : Nat) : Option RunStatistics :=
  match c.failed, c.stopped, c.duties, c.carried with
  | false, some interrupted, [], none =>
    some (Trial.told c.statistics c.ledger interrupted c.statistics.drained nanos)
  | _, _, _, _ => none

end Course

/-! ### What was reported -/

namespace RunStatistics

/-- The statistics of flushes that posted some records and submitted some batches: the records of
either kind are counted, every flush, the records in the batches, and the flushes that shipped their
batch themselves. -/
structure Reports (posted : (k : Kind) → List (Record k)) (batches : List Batch)
    (answers : List Submission) (s : RunStatistics) : Prop where
  records_eq (k : Kind) : (s.flushes.of k).records = (posted k).length
  flushes_eq : (s.flushes.of .runner).flushes + (s.flushes.of .croner).flushes = batches.length
  shipped_eq : (s.flushes.of .runner).shipped + (s.flushes.of .croner).shipped =
    (batches.map Batch.size).sum
  callerRuns_eq : s.callerRuns = answers.count .callerRan

/-- One more report. -/
theorem Reports.add {posted : (k : Kind) → List (Record k)} {batches : List Batch}
    {answers : List Submission} {s : RunStatistics} (h : Reports posted batches answers s)
    (l : Ledger σ) (place : Submission) (j : Kind) (records : List (Record j)) :
    Reports (fun k => posted k ++ Batch.of k ⟨j, records⟩) (batches ++ [l.batch j records])
      (answers ++ [(l.dispatcher.submitTo place (l.batch j records)).1])
      (s.add (l.reportOf place j records)) := by
  obtain ⟨records_eq, flushes_eq, shipped_eq, callerRuns_eq⟩ := h
  refine ⟨fun k => ?_, ?_, ?_, ?_⟩
  · show ((s.flushes.add j records.length _).of k).records = _
    rw [Flushes.of_add, List.length_append, ← records_eq k]
    by_cases same : j = k
    · subst same
      rw [if_pos rfl, Batch.of_self]
      rfl
    · rw [if_neg same, Batch.of_of_ne same]
      rfl
  · rw [List.length_append, ← flushes_eq]
    cases j <;> simp [RunStatistics.add, Flushes.add, Flushes.of, KindFlushes.add,
      Ledger.reportOf] <;> omega
  · rw [List.map_append, List.sum_append, ← shipped_eq]
    cases j <;> simp [RunStatistics.add, Flushes.add, Flushes.of, KindFlushes.add,
      Ledger.reportOf] <;> omega
  · rw [List.count_append, List.count_singleton, ← callerRuns_eq]
    show s.callerRuns + (if (l.dispatcher.submitTo place (l.batch j records)).1 = .callerRan
      then 1 else 0) = _
    simp only [beq_iff_eq]

end RunStatistics

/-- A ledger with a store for either kind has counted some records, and has its accounts of some
batches in order. -/
structure Ledger.Posted (posted : (k : Kind) → List (Record k)) (batches : List Batch)
    (answers : List Submission) (log : Log) (l : Ledger σ) : Prop where
  separate : ∃ stores, l.books = .separate stores
  tallies (k : Kind) : (l.books.of k).Tallies k (posted k)
  accounts : Accounts batches answers l.dispatcher log

namespace Ledger.Posted

variable {posted : (k : Kind) → List (Record k)} {batches : List Batch}
  {answers : List Submission} {log : Log} {l : Ledger σ}

/-- More records are posted. -/
theorem add (h : l.Posted posted batches answers log) {place : Submission}
    (there : place ≠ .skipped) {j : Kind} {records : List (Record j)}
    (all : l.accepts j records = true) : ∃ log', (l.posted place j records).Posted
      (fun k => posted k ++ Batch.of k ⟨j, records⟩) (batches ++ [l.batch j records])
      (answers ++ [(l.dispatcher.submitTo place (l.batch j records)).1]) log' := by
  obtain ⟨stores, separate⟩ := h.separate
  obtain ⟨log', accounts⟩ := h.accounts.submitTo there (l.batch j records)
  refine ⟨log', ⟨?_, ?_⟩, fun k => ?_, accounts⟩
  · exact stores.set j ((Aggregation.ofRecords records).emit (stores.get j))
  · show l.books.update j _ = _
    rw [separate]
    rfl
  · show ((l.books.update j _).of k).Tallies k _
    by_cases same : j = k
    · subst same
      rw [Books.of_update_self, Batch.of_self]
      exact (h.tallies j).emit all
    · have apart : ((l.books.update j (Aggregation.ofRecords records).emit).of k) =
          l.books.of k := by
        rw [separate]
        exact Books.of_update_separate (Ne.symm same) _
      rw [apart, Batch.of_of_ne same, List.append_nil]
      exact h.tallies k

/-- Whatever is done to the dispatcher without a batch. -/
theorem act (h : l.Posted posted batches answers log) (deed : Deed σ) (submits : deed.batch? = none)
    (silent : (l.dispatcher.act deed).1 = none) {m : Ledger σ} (books_eq : m.books = l.books)
    (dispatcher_eq : m.dispatcher = (l.dispatcher.act deed).2) :
    ∃ log', m.Posted posted batches answers log' := by
  have accounts := h.accounts.act deed
  simp only [submits, silent, Option.toList_none, List.append_nil] at accounts
  rw [← dispatcher_eq] at accounts
  refine ⟨_, ?_, fun k => ?_, accounts⟩
  · rw [books_eq]
    exact h.separate
  · rw [books_eq]
    exact h.tallies k

theorem releaseAt (h : l.Posted posted batches answers log) (index : Nat) :
    ∃ log', (l.releaseAt index).Posted posted batches answers log' :=
  h.act (.release index) rfl rfl rfl rfl

theorem stir (h : l.Posted posted batches answers log) (change : σ → σ) :
    ∃ log', (l.stir change).Posted posted batches answers log' :=
  h.act (.stir change) rfl rfl rfl rfl

theorem foldl_releaseAt (h : l.Posted posted batches answers log) (releases : List Nat) :
    ∃ log', (releases.foldl Ledger.releaseAt l).Posted posted batches answers log' := by
  induction releases generalizing l log with
  | nil => exact ⟨log, h⟩
  | cons index later ih =>
    obtain ⟨log', next⟩ := h.releaseAt index
    exact ih next

end Ledger.Posted

/-- Without records to flush, a shutdown releases some batches and closes the crew. -/
theorem Ledger.shutdownAmid_of_empty {l : Ledger σ} (empty : ∀ k, (l.buffers.get k).toList = [])
    (haste : Bool) (releases : List Nat) : ∃ taken : List Nat, l.shutdownAmid haste releases =
      (some (taken.foldl releaseAt l).isDone, (taken.foldl releaseAt l).close) := by
  have first : l.flush .runner = (.nothing, l) := flushTo_of_nil _ (empty .runner)
  have still : l.flushBoth haste = ([.nothing, .nothing], l) := by
    rw [flushBoth_of_returned haste (by rw [first]; rfl), first, flushTo_of_nil _ (empty .croner)]
  obtain ⟨taken, -, next, answer⟩ := l.await_eq releases
  refine ⟨taken, ?_⟩
  rw [shutdownAmid_of_returned releases (by rw [still]; rfl), still, answer, next]

/-! ### What was made, posted and reported -/

/-- The keeper's records of a kind that he carries. -/
def Course.carriedOf (c : Course σ) (k : Kind) : List (Record k) :=
  (c.carried.map (Batch.of k)).getD []

/-- Nothing is lost while a trial goes on: what was made was posted, is carried, or is buffered; the
producers know how much it was; and what was posted was reported, counted and submitted. -/
structure Course.Kept (posted : (k : Kind) → List (Record k)) (batches : List Batch)
    (answers : List Submission) (log : Log) (c : Course σ) : Prop where
  made_eq (k : Kind) : posted k ++ c.carriedOf k ++ (c.ledger.buffers.get k).toList =
    (c.made.get k).map Record.normal
  tally_eq (k : Kind) : (c.producers.map (·.tally.get k)).sum = (c.made.get k).length
  reports : c.statistics.Reports posted batches answers
  posted : c.ledger.Posted posted batches answers log

/-- A sum over producers of which one has changed. -/
theorem sum_set_add {producers : List Producer} {i : Nat} {p : Producer}
    (found : producers[i]? = some p) (f : Producer → Nat) (q : Producer) :
    ((producers.set i q).map f).sum + f p = (producers.map f).sum + f q := by
  obtain ⟨inside, rfl⟩ := List.getElem?_eq_some_iff.1 found
  have before := ((List.getElem_cons_eraseIdx_perm inside).map f).sum_nat
  have after := ((List.set_perm_cons_eraseIdx inside q).map f).sum_nat
  rw [List.map_cons, List.sum_cons] at before after
  omega

namespace Course.Kept

variable {posted : (k : Kind) → List (Record k)} {batches : List Batch}
  {answers : List Submission} {log : Log} {c : Course σ}

theorem opened (limits : Limits) (levels : PerKind fun _ => Lookup) (receiver : Receiver σ)
    (world : σ) (producers : Nat) :
    Kept (fun _ => []) [] [] {} (Course.opened
      (Ledger.opened limits levels (.separate ⟨.empty, .empty⟩) receiver world) producers) where
  made_eq k := by cases k <;> rfl
  tally_eq k := by cases k <;> simp [Course.opened, PerKind.get]
  reports := ⟨fun k => by cases k <;> rfl, rfl, rfl, rfl⟩
  posted := by
    refine ⟨⟨_, rfl⟩, fun k => ?_, Accounts.opening limits receiver world⟩
    cases k <;> exact Store.tallies_empty _

theorem produce (h : c.Kept posted batches answers log) {i : Nat} {p : Producer}
    (found : c.producers[i]? = some p) (j : Kind) (r : Record j) :
    (c.produce i p j r).Kept posted batches answers log where
  made_eq k := by
    have before := h.made_eq k
    by_cases same : j = k
    · subst same
      simp only [Course.produce, PerKind.get_set_self, List.map_append, ← before]
      simp [Ledger.record, Ledger.observe, carriedOf]
    · have buffer : (c.ledger.record j r).buffers.get k = c.ledger.buffers.get k :=
        PerKind.get_set_of_ne _ (Ne.symm same) _
      simp only [Course.produce, PerKind.get_set_of_ne _ (Ne.symm same), ← before, buffer]
      rfl
  tally_eq k := by
    have before := h.tally_eq k
    have sums := sum_set_add found (·.tally.get k)
      { p with tally := p.tally.set j (p.tally.get j + 1) }
    by_cases same : j = k
    · subst same
      simp only [Course.produce, PerKind.get_set_self, List.length_append, List.length_singleton]
        at sums ⊢
      omega
    · simp only [Course.produce, PerKind.get_set_of_ne _ (Ne.symm same)] at sums ⊢
      omega
  reports := h.reports
  posted := ⟨h.posted.separate, h.posted.tallies, h.posted.accounts⟩

theorem leave (h : c.Kept posted batches answers log) {i : Nat} {p : Producer}
    (found : c.producers[i]? = some p) :
    Kept posted batches answers log { c with
      producers := c.producers.set i { p with gone := true } } where
  made_eq := h.made_eq
  tally_eq k := by
    have before := h.tally_eq k
    have sums := sum_set_add found (·.tally.get k) { p with gone := true }
    simp only at sums ⊢
    omega
  reports := h.reports
  posted := h.posted

theorem detach (h : c.Kept posted batches answers log) (free : c.carried = none) {j : Kind}
    {records : List (Record j)} {ledger : Ledger σ}
    (took : c.ledger.detach j = (some records, ledger)) (duties : List Duty) :
    Kept posted batches answers log { c with ledger, duties, carried := some ⟨j, records⟩ } := by
  obtain ⟨rfl, rfl⟩ := Ledger.eq_of_detach took
  refine ⟨fun k => ?_, h.tally_eq, h.reports, h.posted.separate, h.posted.tallies,
    h.posted.accounts⟩
  have before := h.made_eq k
  rw [← before]
  by_cases same : j = k
  · subst same
    simp [carriedOf, free, Batch.of_self]
  · simp [carriedOf, free, Batch.of_of_ne same,
      PerKind.get_set_of_ne _ (Ne.symm same)]

theorem post (h : c.Kept posted batches answers log) {batch : Batch}
    (has : c.carried = some batch) (all : c.ledger.accepts batch.kind batch.records = true)
    {place : Submission} (there : place ≠ .skipped) :
    ∃ posted' batches' answers' log', (c.post batch place).Kept posted' batches' answers' log' := by
  obtain ⟨log', accounted⟩ := h.posted.add there all
  refine ⟨_, _, _, log', fun k => ?_, h.tally_eq, h.reports.add c.ledger place batch.kind
    batch.records, accounted⟩
  have before := h.made_eq k
  simp only [carriedOf, has, Option.map_some, Option.getD_some] at before
  simp only [Course.post, carriedOf, Option.map_none, Option.getD_none, List.append_nil,
    Ledger.posted]
  exact before

theorem close (h : c.Kept posted batches answers log)
    (empty : ∀ k, (c.ledger.buffers.get k).toList = []) (duties : List Duty) {haste : Bool}
    {releases : List Nat} {drained : Bool} {ledger : Ledger σ}
    (shut : c.ledger.shutdownAmid haste releases = (some drained, ledger)) :
    ∃ log', (c.close duties drained ledger).Kept posted batches answers log' := by
  obtain ⟨taken, same⟩ := c.ledger.shutdownAmid_of_empty empty haste releases
  obtain ⟨-, rfl⟩ := Prod.mk.inj (shut.symm.trans same)
  obtain ⟨log', released⟩ := h.posted.foldl_releaseAt taken
  obtain ⟨log', closed⟩ := released.act (m := (taken.foldl Ledger.releaseAt c.ledger).close) .close
    rfl rfl rfl rfl
  refine ⟨log', fun k => ?_, h.tally_eq, ?_, closed⟩
  · have buffers_eq : (taken.foldl Ledger.releaseAt c.ledger).close.buffers = c.ledger.buffers :=
      c.ledger.buffers_foldl_releaseAt taken
    simp only [Course.close, buffers_eq]
    exact h.made_eq k
  · exact ⟨h.reports.records_eq, h.reports.flushes_eq, h.reports.shipped_eq,
      h.reports.callerRuns_eq⟩

end Course.Kept

/-! ### What the keeper has done -/

namespace Duty

/-- What is left to do when the trial is over. -/
theorem cases_ending {duties : List Duty} (h : duties <:+ ending) :
    duties = ending ∨ duties = [.flush .runner, .flush .croner, .close] ∨
      duties = [.flush .croner, .close] ∨ duties = [.close] ∨ duties = [] := by
  have among := (List.mem_tails duties ending).2 h
  simpa [ending] using among

/-- The keeper waits for the producers before he does anything else. -/
theorem eq_ending_of_join {duties : List Duty} (h : duties <:+ ending) (join : .join ∈ duties) :
    duties = ending := by
  rcases cases_ending h with rfl | rfl | rfl | rfl | rfl
  · rfl
  all_goals simp at join

/-- He flushes before he shuts the ledger down. -/
theorem close_mem_of_flush {duties : List Duty} {k : Kind} (h : .flush k :: duties <:+ ending) :
    .close ∈ duties := by
  rcases cases_ending h with same | same | same | same | same
  all_goals simp [ending] at same
  all_goals simp [same]

/-- Then he has flushed both kinds. -/
theorem flush_notMem_of_close {duties : List Duty} (h : .close :: duties <:+ ending) (k : Kind) :
    .flush k ∉ .close :: duties := by
  rcases cases_ending h with same | same | same | same | same
  all_goals simp [ending] at same
  simp [same]

theorem notMem_cons {duty head : Duty} {duties : List Duty} (differ : duty ≠ head)
    (out : duty ∉ duties) : duty ∉ head :: duties := by
  simp [differ, out]

end Duty

/-- What is true of a trial that is over, by what is left to do.  The keeper does what has to be
done, in order:

* when he has waited for the producers, nobody records any longer, and he knows how much was
  recorded;
* when he has flushed a kind, there are no more records;
* when he has shut the ledger down, he carries nothing, and if no batch was held then, none is held
  later. -/
structure Course.Stopping (c : Course σ) : Prop where
  suffix : c.duties <:+ Duty.ending
  joined : .join ∉ c.duties → (∀ p ∈ c.producers, p.gone = true) ∧
    ∀ k, c.statistics.produced.get k = (c.made.get k).length
  emptied (k : Kind) : .flush k ∉ c.duties → (c.ledger.buffers.get k).toList = []
  free : .close ∉ c.duties → c.carried = none
  drained : .close ∉ c.duties → c.statistics.drained = true →
    c.ledger.dispatcher.crew.held = []

/-- At first everything is left to do. -/
theorem Course.stopping_of_ending {c : Course σ} (all : c.duties = Duty.ending) : c.Stopping := by
  have every : ∀ duty, duty ∈ c.duties := by
    rw [all]
    rintro (_ | ⟨_ | _⟩ | _) <;> decide
  exact ⟨all ▸ List.suffix_rfl, fun out => absurd (every _) out, fun k out => absurd (every _) out,
    fun out => absurd (every _) out, fun out => absurd (every _) out⟩

/-- The keeper does everything in order: while the trial goes on he only flushes, and when it is
over he does what has to be done. -/
structure Course.Ordered (c : Course σ) : Prop where
  running : c.stopped = none → ∀ duty ∈ c.duties, ∃ k, duty = .flush k
  stopping : c.stopped ≠ none → c.Stopping

/-- No batch comes to be held by a release. -/
theorem Ledger.held_releaseAt {l : Ledger σ} (nothing : l.dispatcher.crew.held = [])
    (index : Nat) : (l.releaseAt index).dispatcher.crew.held = [] := by
  have absent : l.dispatcher.crew.held[index]? = none := by
    rw [nothing]
    rfl
  show (l.dispatcher.releaseAt index).2.1.crew.held = []
  rw [l.dispatcher.releaseAt_of_none absent]
  show l.dispatcher.crew.held.eraseIdx index = []
  rw [nothing]
  rfl

namespace Course.Ordered

variable {c : Course σ}

theorem opened (ledger : Ledger σ) (producers : Nat) :
    (Course.opened ledger producers).Ordered where
  running _ := nofun
  stopping ended := absurd rfl ended

/-- The keeper has something else to do than to flush only when the trial is over. -/
theorem stopped (h : c.Ordered) {duty : Duty} {duties : List Duty}
    (next : c.duties = duty :: duties) (other : ∀ k, duty ≠ .flush k) : c.stopped ≠ none := by
  intro running
  obtain ⟨k, same⟩ := h.running running duty (next ▸ List.mem_cons_self)
  exact other k same

/-- As long as somebody has not left, the keeper has everything still to do. -/
theorem duties_of_busy (h : c.Stopping) {i : Nat} {p : Producer}
    (found : c.producers[i]? = some p) (busy : p.gone = false) : c.duties = Duty.ending := by
  refine Duty.eq_ending_of_join h.suffix ?_
  by_contra joined
  rw [(h.joined joined).1 p (List.mem_of_getElem? found)] at busy
  cases busy

theorem produce (h : c.Ordered) {i : Nat} {p : Producer} (found : c.producers[i]? = some p)
    (busy : p.gone = false) (k : Kind) (r : Record k) : (c.produce i p k r).Ordered := by
  refine ⟨h.running, fun ended => ?_⟩
  have all := duties_of_busy (h.stopping ended) found busy
  exact Course.stopping_of_ending all

theorem leave (h : c.Ordered) (i : Nat) (p : Producer) :
    Ordered { c with producers := c.producers.set i { p with gone := true } } := by
  refine ⟨h.running, fun ended => ?_⟩
  obtain ⟨suffix, joined, emptied, free, drained⟩ := h.stopping ended
  refine ⟨suffix, fun out => ⟨fun q among => ?_, (joined out).2⟩, emptied, free, drained⟩
  rcases List.mem_or_eq_of_mem_set among with before | rfl
  · exact (joined out).1 q before
  · rfl

theorem tick (running : c.stopped = none) (kinds : List Kind) :
    Ordered { c with duties := kinds.map .flush } := by
  refine ⟨fun _ duty among => ?_, fun ended => absurd running ended⟩
  obtain ⟨k, -, rfl⟩ := List.mem_map.1 among
  exact ⟨k, rfl⟩

theorem stop (interrupted : Bool) :
    Ordered { c with stopped := some interrupted, duties := Duty.ending } :=
  ⟨nofun, fun _ => Course.stopping_of_ending rfl⟩

/-- The records of a kind are detached, or there are none: its buffer is empty, and nothing else
happens to the ledger. -/
theorem flush (h : c.Ordered) {k : Kind} {duties : List Duty} (next : c.duties = .flush k :: duties)
    {ledger : Ledger σ} {carried : Option Batch}
    (emptied_self : (ledger.buffers.get k).toList = [])
    (others : ∀ j, j ≠ k → ledger.buffers.get j = c.ledger.buffers.get j) :
    Ordered { c with ledger, duties, carried } := by
  refine ⟨fun running duty among => ?_, fun ended => ?_⟩
  · exact h.running running duty (next ▸ List.mem_cons_of_mem _ among)
  · obtain ⟨suffix, joined, emptied, -, -⟩ := h.stopping ended
    rw [next] at suffix joined emptied
    have close := Duty.close_mem_of_flush suffix
    refine ⟨(List.suffix_cons _ _).trans suffix,
      fun out => joined (Duty.notMem_cons Duty.noConfusion out), fun j out => ?_,
      fun out => absurd close out, fun out => absurd close out⟩
    by_cases same : j = k
    · subst same
      exact emptied_self
    · show (ledger.buffers.get j).toList = []
      rw [others j same]
      exact emptied j (Duty.notMem_cons (by simpa using same) out)

theorem post (h : c.Ordered) {batch : Batch} (has : c.carried = some batch) (place : Submission) :
    (c.post batch place).Ordered := by
  refine ⟨h.running, fun ended => ?_⟩
  obtain ⟨suffix, joined, emptied, free, -⟩ := h.stopping ended
  refine ⟨suffix, joined, emptied, fun _ => rfl, fun out => ?_⟩
  rw [free out] at has
  cases has

theorem join (h : c.Ordered) {duties : List Duty} (next : c.duties = .join :: duties)
    (gone : ∀ p ∈ c.producers, p.gone = true)
    (tally_eq : ∀ k, (c.producers.map (·.tally.get k)).sum = (c.made.get k).length) :
    (c.join duties).Ordered := by
  have ended := h.stopped next fun _ => Duty.noConfusion
  obtain ⟨suffix, -, emptied, free, drained⟩ := h.stopping ended
  rw [next] at suffix emptied free drained
  refine ⟨fun running => absurd running ended, fun _ => ⟨(List.suffix_cons _ _).trans suffix,
    fun _ => ⟨gone, fun k => ?_⟩, fun k out => ?_, fun out => ?_, fun out => ?_⟩⟩
  · cases k with
    | runner => exact tally_eq .runner
    | croner => exact tally_eq .croner
  · exact emptied k (Duty.notMem_cons Duty.noConfusion out)
  · exact free (Duty.notMem_cons Duty.noConfusion out)
  · exact drained (Duty.notMem_cons Duty.noConfusion out)

theorem emptied_of_close (h : c.Ordered) {duties : List Duty} (next : c.duties = .close :: duties)
    (k : Kind) : (c.ledger.buffers.get k).toList = [] := by
  obtain ⟨suffix, -, emptied, -, -⟩ := h.stopping (h.stopped next fun _ => Duty.noConfusion)
  rw [next] at suffix emptied
  exact emptied k (Duty.flush_notMem_of_close suffix k)

theorem close (h : c.Ordered) {duties : List Duty} (next : c.duties = .close :: duties)
    (free : c.carried = none) {haste : Bool} {releases : List Nat} {drained : Bool}
    {ledger : Ledger σ} (shut : c.ledger.shutdownAmid haste releases = (some drained, ledger)) :
    (c.close duties drained ledger).Ordered := by
  have ended := h.stopped next fun _ => Duty.noConfusion
  have emptied := h.emptied_of_close next
  obtain ⟨taken, same⟩ := c.ledger.shutdownAmid_of_empty emptied haste releases
  obtain ⟨answer, rfl⟩ := Prod.mk.inj (shut.symm.trans same)
  obtain ⟨suffix, joined, -, -, -⟩ := h.stopping ended
  rw [next] at suffix joined
  refine ⟨fun running => absurd running ended, fun _ => ⟨(List.suffix_cons _ _).trans suffix,
    fun out => joined (Duty.notMem_cons Duty.noConfusion out), fun k _ => ?_, fun _ => free,
    fun _ done => ?_⟩⟩
  · show ((taken.foldl Ledger.releaseAt c.ledger).buffers.get k).toList = []
    rw [c.ledger.buffers_foldl_releaseAt taken, emptied k]
  · have done : drained = true := done
    rw [Option.some.inj answer, Ledger.isDone_iff_held] at done
    exact (Ledger.held_close _).trans done

/-- What happens to the dispatcher without the keeper holds no batch. -/
theorem other (h : c.Ordered) {ledger : Ledger σ} (buffers_eq : ledger.buffers = c.ledger.buffers)
    (held : c.ledger.dispatcher.crew.held = [] → ledger.dispatcher.crew.held = []) :
    Ordered { c with ledger } := by
  refine ⟨h.running, fun ended => ?_⟩
  obtain ⟨suffix, joined, emptied, free, drained⟩ := h.stopping ended
  refine ⟨suffix, joined, fun k out => ?_, free, fun out done => held (drained out done)⟩
  show (ledger.buffers.get k).toList = []
  rw [buffers_eq]
  exact emptied k out

end Course.Ordered

/-! ### The whole course -/

/-- Nothing is lost, and the keeper does everything in order, as long as he has not failed.  Then he
has nothing to do and carries nothing. -/
structure Course.Sound (c : Course σ) : Prop where
  well : c.failed = false → c.Ordered ∧ ∃ posted batches answers log,
    c.Kept posted batches answers log
  idle : c.failed = true → c.duties = [] ∧ c.carried = none

namespace Course.Sound

variable {c d : Course σ}

theorem opened (limits : Limits) (levels : PerKind fun _ => Lookup) (receiver : Receiver σ)
    (world : σ) (producers : Nat) :
    (Course.opened (Ledger.opened limits levels (.separate ⟨.empty, .empty⟩) receiver world)
      producers).Sound :=
  ⟨fun _ => ⟨.opened _ _, _, _, _, _, .opened limits levels receiver world producers⟩, nofun⟩

theorem of_failed (failed : c.failed = true) (idle : c.duties = []) (free : c.carried = none) :
    c.Sound :=
  ⟨fun well => Bool.noConfusion (failed.symm.trans well), fun _ => ⟨idle, free⟩⟩

theorem of_well (well : c.failed = false) (ordered : c.Ordered)
    (kept : ∃ posted batches answers log, c.Kept posted batches answers log) : c.Sound :=
  ⟨fun _ => ⟨ordered, kept⟩, fun failed => Bool.noConfusion (well.symm.trans failed)⟩

/-- When the keeper has failed, only others go on. -/
theorem goes_of_failed (h : c.Sound) (failed : c.failed = true) (goes : c.Goes d) : d.Sound := by
  obtain ⟨idle, free⟩ := h.idle failed
  cases goes with
  | produce found busy k r => exact of_failed failed idle free
  | leave found ended => exact of_failed failed idle free
  | release index => exact of_failed failed idle free
  | stir change => exact of_failed failed idle free
  | tick running idle free well kinds => exact Bool.noConfusion (failed.symm.trans well)
  | stop running idle free well interrupted => exact Bool.noConfusion (failed.symm.trans well)
  | pass next _ _ => exact nomatch idle.symm.trans next
  | detach next _ _ => exact nomatch idle.symm.trans next
  | join next _ => exact nomatch idle.symm.trans next
  | close next _ _ => exact nomatch idle.symm.trans next
  | unwind next => exact nomatch idle.symm.trans next
  | post has _ _ _ => exact nomatch free.symm.trans has
  | spill has _ => exact nomatch free.symm.trans has

/-- Whatever happens next, a course stays sound. -/
theorem goes (h : c.Sound) (goes : c.Goes d) : d.Sound := by
  cases well : c.failed with
  | true => exact h.goes_of_failed well goes
  | false =>
  obtain ⟨ordered, posted, batches, answers, log, kept⟩ := h.well well
  cases goes with
  | produce found busy k r =>
    exact of_well well (ordered.produce found busy k r) ⟨_, _, _, _, kept.produce found k r⟩
  | leave found ended =>
    exact of_well well (ordered.leave _ _) ⟨_, _, _, _, kept.leave found⟩
  | tick running idle free _ kinds =>
    exact of_well well (.tick running kinds)
      ⟨_, _, _, _, kept.made_eq, kept.tally_eq, kept.reports, kept.posted⟩
  | stop running idle free _ interrupted =>
    exact of_well well (.stop interrupted)
      ⟨_, _, _, _, kept.made_eq, kept.tally_eq, kept.reports, kept.posted⟩
  | pass next free absent =>
    exact of_well well (ordered.flush next (Ledger.nil_of_detach absent) fun _ _ => rfl)
      ⟨_, _, _, _, kept.made_eq, kept.tally_eq, kept.reports, kept.posted⟩
  | @detach k duties next free records ledger took =>
    refine of_well well ?_ ⟨_, _, _, _, kept.detach free took duties⟩
    obtain ⟨-, rfl⟩ := Ledger.eq_of_detach took
    refine ordered.flush next ?_ fun j differ => PerKind.get_set_of_ne _ differ _
    show ((c.ledger.buffers.set k Buffer.empty).get k).toList = []
    rw [PerKind.get_set_self]
    rfl
  | post has all place there =>
    exact of_well well (ordered.post has place) (kept.post has all there)
  | spill has refused => exact of_failed rfl rfl rfl
  | join next gone =>
    refine of_well well (ordered.join next gone kept.tally_eq)
      ⟨_, _, _, _, kept.made_eq, kept.tally_eq, ?_, kept.posted⟩
    exact ⟨kept.reports.records_eq, kept.reports.flushes_eq, kept.reports.shipped_eq,
      kept.reports.callerRuns_eq⟩
  | close next free _ _ shut =>
    exact of_well well (ordered.close next free shut)
      ⟨_, _, _, kept.close (ordered.emptied_of_close next) _ shut⟩
  | unwind => exact of_failed rfl rfl rfl
  | release index =>
    obtain ⟨log', released⟩ := kept.posted.releaseAt index
    exact of_well well (ordered.other rfl fun nothing => Ledger.held_releaseAt nothing index)
      ⟨_, _, _, log', kept.made_eq, kept.tally_eq, kept.reports, released⟩
  | stir change =>
    obtain ⟨log', stirred⟩ := kept.posted.stir change
    exact of_well well (ordered.other rfl id)
      ⟨_, _, _, log', kept.made_eq, kept.tally_eq, kept.reports, stirred⟩

theorem leads (h : c.Sound) (leads : c.Leads d) : d.Sound := by
  induction leads with
  | refl => exact h
  | tail _ goes ih => exact ih.goes goes

end Course.Sound

/-- A course fails only at records that the store refuses. -/
theorem Course.refused_of_failed {c d : Course σ} (h : c.Sound) (well : c.failed = false)
    (leads : c.Leads d) (failed : d.failed = true) : ∃ (e : Course σ) (batch : Batch), c.Leads e ∧
      e.carried = some batch ∧ e.ledger.accepts batch.kind batch.records = false := by
  induction leads with
  | refl => exact Bool.noConfusion (well.symm.trans failed)
  | @tail d e before goes ih =>
    cases earlier : d.failed with
    | true => exact ih earlier
    | false =>
      have still {flag : Bool} (same : flag = d.failed) (broken : flag = true) : False :=
        Bool.noConfusion (earlier.symm.trans (same.symm.trans broken))
      cases goes with
      | spill has refused => exact ⟨d, _, before, has, refused⟩
      | @unwind duties next free haste releases ledger shut =>
        -- there is nothing to flush any more, so a shutdown does not unwind
        obtain ⟨ordered, -⟩ := (h.leads before).well earlier
        obtain ⟨taken, same⟩ :=
          d.ledger.shutdownAmid_of_empty (ordered.emptied_of_close next) haste releases
        exact (Option.some_ne_none _ (congrArg Prod.fst (same.symm.trans shut))).elim
      | _ => exact (still rfl failed).elim

end TaskLedger
