import Mathlib
import TaskLedger.Proofs.Ledger.Timing
import TaskLedger.Proofs.Trial.Events

/-!
# The statistics of a trial agree

The statistics that are told at the end of a trial come from six places: the producers, the reports
of the flushes, the stores of both kinds, the totals of the dispatcher, and what the shutdown
answers.  They agree, whatever the course of the trial was.  There are none if the keeper has
failed, which happens only if a store refuses a counter.

* `RunStatistics.Agrees`: on what they agree;
* `Accounts.length_eq` and `Accounts.ended_of_held`: what became of all batches;
* `Course.Sound.agrees`: the statistics that are told when the keeper is done agree;
* `statistics_agree`: so they do after every course that a trial may take, those of plans included.
-/

namespace TaskLedger

variable {σ : Type}

/-! ### What the statistics agree on -/

/-- The statistics of a trial agree with each other and with what was recorded:

* the producers have recorded so much, and all of it was flushed and counted, whatever the
  categories are called;
* all failures were counted, too, if their number fits into 64 bits, and nothing is told of them
  otherwise;
* every flush submitted a batch or skipped it, and those that shipped their batch themselves are
  counted twice;
* if no batch is held, all batches and all their records were taken or lost. -/
structure RunStatistics.Agrees (s : RunStatistics) (made : PerKind fun k => List (Record k)) :
    Prop where
  produced_eq (k : Kind) : s.produced.get k = (made.get k).length
  records_eq (k : Kind) : (s.flushes.of k).records = s.produced.get k
  counted_eq (k : Kind) : s.counted k = s.produced.get k
  failures_eq : s.failures = if RunStatistics.failed made.get < 2 ^ 63
    then some (RunStatistics.failed made.get : Int) else none
  flushes_eq : (s.flushes.of .runner).flushes + (s.flushes.of .croner).flushes =
    s.totals.submitted + s.totals.skipped
  callerRuns_eq : s.callerRuns = s.totals.callerRuns
  drained : s.drained = true →
    (s.flushes.of .runner).shipped + (s.flushes.of .croner).shipped =
      s.totals.persistedRecords + s.totals.failedRecords ∧
    s.totals.submitted = s.totals.persistedBatches + s.totals.failedBatches

/-- A record is a success in the form in which it is kept if it is one. -/
theorem Record.succeeded_normal {k : Kind} (r : Record k) : r.normal.succeeded = r.succeeded := by
  cases k <;> rfl

theorem RunStatistics.failed_normal (made : PerKind fun k => List (Record k)) :
    failed (fun k => (made.get k).map Record.normal) = failed made.get := by
  unfold failed
  simp only [List.countP_map, Function.comp_def, Record.succeeded_normal]

/-- Empty batches have no records. -/
theorem sum_size_filter (batches : List Batch) :
    ((batches.filter fun batch => !batch.isEmpty).map Batch.size).sum =
      (batches.map Batch.size).sum := by
  induction batches with
  | nil => rfl
  | cons batch batches ih =>
    cases he : batch.isEmpty with
    | true =>
      rw [List.filter_cons_of_neg (by simp [he]), ih, List.map_cons, List.sum_cons,
        Batch.isEmpty_iff_size.1 he, Nat.zero_add]
    | false =>
      rw [List.filter_cons_of_pos (by simp [he]), List.map_cons, List.map_cons, List.sum_cons,
        List.sum_cons, ih]

namespace Accounts

variable {batches : List Batch} {answers : List Submission} {d : Dispatcher σ} {log : Log}

/-- Every batch was submitted or skipped. -/
theorem length_eq (h : Accounts batches answers d log) :
    batches.length = d.totals.submitted + d.totals.skipped := by
  rw [h.submitted_eq, h.received_eq, h.skipped_eq, ← List.countP_eq_length_filter]
  have split : batches.length = batches.countP (fun batch => batch.isEmpty) +
      batches.countP fun batch => decide ¬batch.isEmpty = true :=
    List.length_eq_countP_add_countP _
  have others : batches.countP (fun batch => !batch.isEmpty) =
      batches.countP fun batch => decide ¬batch.isEmpty = true :=
    List.countP_congr fun batch _ => by simp
  omega

/-- If no batch is held, the shipments of all have ended. -/
theorem ended_of_held (h : Accounts batches answers d log) (nothing : d.crew.held = []) :
    (batches.map Batch.size).sum = d.totals.persistedRecords + d.totals.failedRecords ∧
      d.totals.submitted = d.totals.persistedBatches + d.totals.failedBatches := by
  have perm := h.ended_perm
  rw [nothing, List.append_nil] at perm
  constructor
  · rw [h.counted.records_eq, ← sum_size_filter, ← h.received_eq, ← (perm.map Batch.size).sum_nat,
      List.map_map]
    rfl
  · rw [h.counted.batches_eq, h.submitted_eq, ← perm.length_eq, List.length_map]

end Accounts

/-- **The statistics that are told agree.** -/
theorem Course.Sound.agrees {c : Course σ} (h : c.Sound) {nanos : Nat} {s : RunStatistics}
    (told : c.result? nanos = some s) : s.Agrees c.made := by
  unfold result? at told
  split at told
  swap
  · cases told
  rename_i interrupted well stopped idle free
  cases told
  obtain ⟨ordered, posted, batches, answers, log, kept⟩ := h.well well
  obtain ⟨-, joined, emptied, -, drained⟩ := ordered.stopping (by rw [stopped]; nofun)
  rw [idle] at joined emptied drained
  -- nothing is carried or buffered, so everything was posted
  have posted_eq : posted = fun k => (c.made.get k).map Record.normal := by
    funext k
    rw [← kept.made_eq k, carriedOf, free, emptied k List.not_mem_nil]
    simp
  subst posted_eq
  have produced_eq := (joined List.not_mem_nil).2
  have length_eq (k : Kind) : ((c.made.get k).map Record.normal).length =
      c.statistics.produced.get k := by
    rw [List.length_map, produced_eq]
  have counted := RunStatistics.counted_eq (s := Trial.told c.statistics c.ledger interrupted
    c.statistics.drained nanos) rfl kept.posted.tallies
  have failures := RunStatistics.failures_eq (s := Trial.told c.statistics c.ledger interrupted
    c.statistics.drained nanos) rfl kept.posted.tallies
  rw [RunStatistics.failed_normal] at failures
  exact
    { produced_eq
      records_eq := fun k => (kept.reports.records_eq k).trans (length_eq k)
      counted_eq := fun k => (counted k).trans (congrArg Nat.cast (length_eq k))
      failures_eq := failures
      flushes_eq := kept.reports.flushes_eq.trans kept.posted.accounts.length_eq
      callerRuns_eq := kept.reports.callerRuns_eq.trans kept.posted.accounts.callerRuns_eq.symm
      drained := fun done => by
        have ended := kept.posted.accounts.ended_of_held (drained List.not_mem_nil done)
        exact ⟨kept.reports.shipped_eq.trans ended.1, ended.2⟩ }

/-- A trial whose events come one after another is one of the courses that a trial may take. -/
theorem Trial.exists_course (ledger : Ledger σ) (events : List TrialEvent) (interrupted : Bool)
    (nanos : Nat) : ∃ c, (Course.opened ledger 1).Leads c ∧ c.made = TrialEvent.made events ∧
      c.result? nanos =
        ((({ ledger } : Trial σ).run events).finish interrupted nanos).1 ∧
      c.ledger = ((({ ledger } : Trial σ).run events).finish interrupted nanos).2 := by
  have runs := leads_run { ledger } [] events
  rw [List.nil_append] at runs
  obtain ⟨c, finishes, facts⟩ := leads_finish (TrialEvent.made events) interrupted
    (({ ledger } : Trial σ).run events) nanos
  exact ⟨c, runs.trans finishes, facts⟩

/-! ### The main result -/

/-- **The statistics of a trial agree.**  Any number of producers record what they like and when
they like, the keeper flushes whenever he likes, batches are released at any time and in any order,
the receiver does what it likes, and the trial is stopped at any moment:  the statistics that are
told at the end, if any are told, agree.  The keeper fails only at records that a store refuses.  A
trial whose events come one after another is one of these courses, and so the statistics of a plan
that is performed agree as well. -/
theorem statistics_agree :
    (∀ (limits : Limits) (levels : PerKind fun _ => Lookup) (receiver : Receiver σ) (world : σ)
      (producers : Nat) (c : Course σ),
      let first := Course.opened (Ledger.opened limits levels (.separate ⟨.empty, .empty⟩) receiver
        world) producers
      first.Leads c →
        (∀ (nanos : Nat) (s : RunStatistics), c.result? nanos = some s → s.Agrees c.made) ∧
        (c.failed = true → ∃ (d : Course σ) (batch : Batch), first.Leads d ∧
          d.carried = some batch ∧ d.ledger.accepts batch.kind batch.records = false)) ∧
    (∀ (ledger : Ledger σ) (events : List TrialEvent) (interrupted : Bool) (nanos : Nat),
      ∃ c, (Course.opened ledger 1).Leads c ∧ c.made = TrialEvent.made events ∧
        c.result? nanos =
          ((({ ledger } : Trial σ).run events).finish interrupted nanos).1) ∧
    ∀ (p : Plan) (settings : Settings) (world : World) (g : StdGen) (s : RunStatistics)
      (ledger : Ledger World), p.perform settings world g = .ok (some s, ledger) →
      ∃ stop, p.stop? = some stop ∧ s.Agrees (TrialEvent.made (p.history settings g stop)) := by
  refine ⟨fun limits levels receiver world producers c => ?_,
    fun ledger events interrupted nanos => ?_, fun p settings world g s ledger performed => ?_⟩
  · intro first leads
    have sound := Course.Sound.opened limits levels receiver world producers
    exact ⟨fun nanos s told => (sound.leads leads).agrees told,
      Course.refused_of_failed sound rfl leads⟩
  · obtain ⟨c, leads, made_eq, told, -⟩ := Trial.exists_course ledger events interrupted nanos
    exact ⟨c, leads, made_eq, told⟩
  · obtain ⟨stop, receiver, world', ends, performed_eq⟩ := Plan.exists_run performed
    obtain ⟨c, leads, made_eq, told, -⟩ := Trial.exists_course
      (Ledger.withReceiver settings (.separate ⟨.empty, .empty⟩) receiver world')
      (p.history settings g stop) stop.interrupted (stop.millis * 1000000)
    rw [← performed_eq] at told
    have agrees := ((Course.Sound.opened _ _ receiver world' 1).leads leads).agrees told
    rw [made_eq] at agrees
    exact ⟨stop, ends, agrees⟩

/-- Of two producers one records while the keeper carries what he has detached, and the other one
when the trial is over. -/
theorem statistics_agree_of_stragglers : ∃ (c : Course Unit) (s : RunStatistics),
    (Course.opened Ledger.simple 2).Leads c ∧ c.result? 0 = some s ∧
      s.produced.get .runner = 3 ∧ s.drained = true ∧ s.Agrees c.made := by
  have leads : (Course.opened Ledger.simple 2).Leads _ := Relation.ReflTransGen.refl
    |>.tail (.produce (i := 0) rfl rfl .runner (Runner.ran .epoch .fiveLater))
    |>.tail (.tick rfl rfl rfl rfl [.runner])
    |>.tail (.detach rfl rfl rfl)
    |>.tail (.produce (i := 1) rfl rfl .runner (Runner.ran .epoch .fiveLater))
    |>.tail (.post rfl (by decide) .spawned nofun)
    |>.tail (.stop rfl rfl rfl rfl false)
    |>.tail (.produce (i := 0) rfl rfl .runner (Runner.ran .epoch .fiveLater))
    |>.tail (.leave (i := 0) rfl nofun)
    |>.tail (.leave (i := 1) rfl nofun)
    |>.tail (.join rfl (by decide))
    |>.tail (.detach rfl rfl rfl)
    |>.tail (.post rfl (by decide) .callerRan nofun)
    |>.tail (.pass rfl rfl rfl)
    |>.tail (.close rfl rfl false [0] rfl)
  exact ⟨_, _, leads, rfl, rfl, rfl, (statistics_agree.1 _ _ _ _ 2 _ leads).1 0 _ rfl⟩

end TaskLedger
