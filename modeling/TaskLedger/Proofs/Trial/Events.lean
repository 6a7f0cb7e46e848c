import Mathlib
import TaskLedger.Proofs.Trial.Course
import TaskLedger.Trial.Plan

/-!
# Trials whose events come one after another

A trial that is executed is one of the courses that a trial may take: its events come one after
another, a single producer records everything, and the keeper is never interrupted.

* `TrialEvent.made`: what is recorded by some events, and `Plan.events`: what happens in a trial of
  a plan;
* `Trial.leads_step`, `Trial.leads_run` and `Trial.leads_finish`: the course of a trial;
* `Plan.exists_run`: the trial of a plan that is performed runs the events of the plan and ends.
-/

namespace TaskLedger

variable {σ : Type}

/-! ### What is recorded -/

namespace TrialEvent

/-- The record of a kind that is produced. -/
def record? (k : Kind) : TrialEvent → Option (Record k)
  | .produce _ r => k.only? r
  | _ => none

/-- What is recorded by some events. -/
def made (events : List TrialEvent) : PerKind fun k => List (Record k) :=
  ⟨events.filterMap (record? .runner), events.filterMap (record? .croner)⟩

theorem made_produce (events : List TrialEvent) (k : Kind) (r : Record k) :
    made (events ++ [.produce k r]) = (made events).set k ((made events).get k ++ [r]) := by
  cases k <;> simp only [made, record?, Kind.only?, List.filterMap_append, reduceCtorEq,
    ↓reduceDIte, Option.some.injEq, List.filterMap_cons_some, List.filterMap_cons_none,
    List.filterMap_nil, List.append_nil, PerKind.set, PerKind.get]

theorem made_append_of_none {event : TrialEvent} (nothing : ∀ k, event.record? k = none)
    (events : List TrialEvent) : made (events ++ [event]) = made events := by
  simp [made, nothing]

end TrialEvent

/-! ### Flushes -/

/-- What a flush adds to the statistics. -/
def RunStatistics.noting (s : RunStatistics) (answer : FlushAnswer) : RunStatistics :=
  answer.report?.elim s s.add

/-- A course in which the keeper has flushed a kind, or failed at it. -/
def Course.flushed (c : Course σ) (k : Kind) (duties : List Duty) : Course σ :=
  if (c.ledger.flush k).1.unwinds then c.fail (c.ledger.flush k).2
  else { c with
    duties
    ledger := (c.ledger.flush k).2
    statistics := c.statistics.noting (c.ledger.flush k).1 }

/-- A keeper who has to flush a kind does so, and nothing else happens meanwhile. -/
theorem Course.leads_flush {c : Course σ} {k : Kind} {duties : List Duty}
    (next : c.duties = .flush k :: duties) (free : c.carried = none) :
    c.Leads (c.flushed k duties) := by
  obtain ⟨ledger, producers, _, _, statistics, failed, stopped, made⟩ := c
  cases next
  cases free
  unfold flushed
  rcases ledger.detach_cases k with ⟨nothing, absent⟩ | ⟨present, took⟩
  · have still : ledger.flush k = (.nothing, ledger) := Ledger.flushTo_of_nil _ nothing
    simp only [still]
    exact .single (.pass rfl rfl absent)
  -- what he carries between his two steps is posted or spilled
  cases taken : ledger.accepts k (ledger.buffers.get k).toList with
  | true =>
    have posts : ledger.flush k = _ := Ledger.flushTo_of_accepts _ present taken
    simp only [posts]
    refine .tail (.single (.detach rfl rfl took)) ?_
    exact .post (c := ⟨ledger.cleared k, producers, duties, some ⟨k, (ledger.buffers.get k).toList⟩,
      statistics, failed, stopped, made⟩) rfl taken ledger.dispatcher.place
      (Crew.place_ne_skipped _ _)
  | false =>
    have spills : ledger.flush k = _ := Ledger.flushTo_of_refused _ present taken
    simp only [spills]
    refine .tail (.single (.detach rfl rfl took)) ?_
    exact .spill (c := ⟨ledger.cleared k, producers, duties,
      some ⟨k, (ledger.buffers.get k).toList⟩, statistics, failed, stopped, made⟩) rfl taken

namespace Trial

theorem flush_of_failed {t : Trial σ} (failed : t.failed = true) (k : Kind) : t.flush k = t :=
  if_pos failed

theorem flush_of_well {t : Trial σ} (well : t.failed = false) (k : Kind) : t.flush k =
    ⟨(t.ledger.flush k).2, t.statistics.noting (t.ledger.flush k).1,
      (t.ledger.flush k).1.unwinds⟩ := by
  rw [flush, if_neg (Bool.eq_false_iff.1 well)]
  rcases t.ledger.flush k with ⟨_ | report | _, ledger⟩
  · rw [well]
    rfl
  · rw [well]
    rfl
  · rfl

/-! ### The course of a trial -/

/-- A trial as a course:  a single producer has recorded everything so far. -/
def course (t : Trial σ) (made : PerKind fun k => List (Record k)) : Course σ where
  ledger := t.ledger
  producers := [{ tally := t.statistics.produced }]
  statistics := { t.statistics with produced := ⟨0, 0⟩ }
  failed := t.failed
  made

theorem course_flush {t : Trial σ} (well : t.failed = false)
    (made : PerKind fun k => List (Record k)) (k : Kind) :
    (t.flush k).course made = (t.course made).flushed k [] := by
  rw [flush_of_well well, Course.flushed]
  show _ = if (t.ledger.flush k).1.unwinds then _ else _
  rcases answer : (t.ledger.flush k).1 with _ | report | _
  · simp [course, answer, well, FlushAnswer.unwinds, RunStatistics.noting, FlushAnswer.report?]
  · simp [course, answer, well, FlushAnswer.unwinds, RunStatistics.noting, FlushAnswer.report?,
      RunStatistics.add]
  · simp [course, well, FlushAnswer.unwinds, RunStatistics.noting, FlushAnswer.report?,
      Course.fail]

/-- What may happen to the course if an event happens to the trial. -/
theorem leads_step (t : Trial σ) (events : List TrialEvent) (event : TrialEvent) :
    (t.course (TrialEvent.made events)).Leads
      ((t.step event).course (TrialEvent.made (events ++ [event]))) := by
  cases event with
  | produce k r =>
    rw [TrialEvent.made_produce]
    exact .single (.produce (c := t.course _) (i := 0) (p := { tally := t.statistics.produced })
      rfl rfl k r)
  | flush k =>
    rw [TrialEvent.made_append_of_none fun _ => rfl]
    show Course.Leads _ ((t.flush k).course _)
    cases failed : t.failed with
    | true =>
      rw [flush_of_failed failed]
      exact .refl
    | false =>
      rw [course_flush failed]
      exact .head (.tick rfl rfl rfl failed [k]) (Course.leads_flush rfl rfl)
  | release =>
    rw [TrialEvent.made_append_of_none fun _ => rfl]
    exact .single (.release _)

theorem leads_run (t : Trial σ) (before events : List TrialEvent) :
    (t.course (TrialEvent.made before)).Leads
      ((t.run events).course (TrialEvent.made (before ++ events))) := by
  induction events generalizing t before with
  | nil =>
    rw [List.append_nil]
    exact .refl
  | cons event events ih =>
    have later := ih (t.step event) (before ++ [event])
    rw [List.append_assoc] at later
    exact (t.leads_step before event).trans later

/-- A trial as a course:  it is over, and the single producer has left. -/
def ending (t : Trial σ) (made : PerKind fun k => List (Record k)) (interrupted : Bool)
    (duties : List Duty) : Course σ where
  ledger := t.ledger
  producers := [{ tally := t.statistics.produced, gone := true }]
  duties := if t.failed then [] else duties
  statistics := t.statistics
  failed := t.failed
  stopped := some interrupted
  made

variable {t : Trial σ} (made : PerKind fun k => List (Record k)) (interrupted : Bool)

/-- When the trial is over, the producer leaves and is waited for. -/
theorem leads_ending (well : t.failed = false) :
    (t.course made).Leads (t.ending made interrupted [.flush .runner, .flush .croner, .close]) := by
  refine .head (.stop rfl rfl rfl well interrupted) (.head (.leave (i := 0) rfl nofun) ?_)
  rw [ending, if_neg (Bool.eq_false_iff.1 well)]
  refine .single (.join rfl fun p among => ?_)
  rw [List.mem_singleton.1 among]

/-- A flush happens to the course if it happens to the trial. -/
theorem leads_ending_flush (k : Kind) (duties : List Duty) :
    (t.ending made interrupted (.flush k :: duties)).Leads
      ((t.flush k).ending made interrupted duties) := by
  cases failed : t.failed with
  | true =>
    rw [flush_of_failed failed, ending, ending, if_pos failed, if_pos failed]
    exact .refl
  | false =>
    have next : (t.ending made interrupted (.flush k :: duties)).duties = .flush k :: duties :=
      if_neg (Bool.eq_false_iff.1 failed)
    have flushed : (t.flush k).ending made interrupted duties =
        (t.ending made interrupted (.flush k :: duties)).flushed k duties := by
      rw [flush_of_well failed, Course.flushed]
      show _ = if (t.ledger.flush k).1.unwinds then _ else _
      rcases answer : (t.ledger.flush k).1 with _ | report | _
      · simp [ending, answer, failed, FlushAnswer.unwinds, RunStatistics.noting,
          FlushAnswer.report?]
      · simp [ending, answer, failed, FlushAnswer.unwinds, RunStatistics.noting,
          FlushAnswer.report?, RunStatistics.add]
      · simp [ending, failed, FlushAnswer.unwinds, RunStatistics.noting, FlushAnswer.report?,
          Course.fail]
    rw [flushed]
    exact Course.leads_flush next rfl

/-- Then the ledger is shut down, and the statistics are told, unless something has unwound. -/
theorem leads_ending_close (u : Trial σ) (nanos : Nat) :
    ∃ c, (u.ending made interrupted [.close]).Leads c ∧ c.made = made ∧
      let told := if u.failed then (none, u.ledger) else
        let (answer, ledger) := u.ledger.shutdown
        (answer.map fun drained => Trial.told u.statistics ledger interrupted drained nanos, ledger)
      c.result? nanos = told.1 ∧ c.ledger = told.2 := by
  cases failed : u.failed with
  | true =>
    refine ⟨_, .refl, rfl, ?_, rfl⟩
    simp [ending, failed, Course.result?]
  | false =>
    have next : (u.ending made interrupted [.close]).duties = [.close] :=
      if_neg (Bool.eq_false_iff.1 failed)
    rcases shut : u.ledger.shutdown with ⟨_ | drained, ledger⟩
    · refine ⟨_, .single (.unwind next rfl false [] shut), rfl, ?_, ?_⟩
      · simp [Course.fail, Course.result?]
      · simp [Course.fail]
    · refine ⟨_, .single (.close next rfl false [] shut), rfl, ?_, ?_⟩
      · simp [ending, Course.close, Course.result?, failed, Trial.told]
      · simp [Course.close]

/-- When the trial is over, both kinds are flushed and the ledger is shut down. -/
theorem leads_finish (t : Trial σ) (nanos : Nat) : ∃ c, (t.course made).Leads c ∧ c.made = made ∧
    c.result? nanos = (t.finish interrupted nanos).1 ∧
    c.ledger = (t.finish interrupted nanos).2 := by
  cases failed : t.failed with
  | true =>
    refine ⟨_, .refl, rfl, ?_, ?_⟩
    · simp [course, failed, Course.result?, finish, flush_of_failed failed]
    · simp [course, failed, finish, flush_of_failed failed]
  | false =>
    have flushes := ((leads_ending made interrupted failed).trans
      (leads_ending_flush ..)).trans (leads_ending_flush ..)
    obtain ⟨c, closes, made_eq, told, ledger_eq⟩ :=
      leads_ending_close made interrupted ((t.flush .runner).flush .croner) nanos
    exact ⟨c, flushes.trans closes, made_eq, told, ledger_eq⟩

end Trial

/-! ### Trials of plans -/

namespace Plan

/-- What happens in a trial of a plan in some milliseconds, the first of which is the given one. -/
def events (p : Plan) (interval : Nat) (g : StdGen) (now : Nat) : Nat → List TrialEvent
  | 0 => []
  | left + 1 =>
    (p.eventsAt interval now g).1 ++ p.events interval (p.eventsAt interval now g).2 (now + 1) left

theorem advance_fst (p : Plan) (interval : Nat) (t : Trial σ) (g : StdGen) (now left : Nat) :
    (p.advance interval t g now left).1 = t.run (p.events interval g now left) := by
  induction left generalizing t g now with
  | zero => rfl
  | succ left ih => rw [advance, events, Trial.run_append, ih]

/-- What happens in a trial of a plan with the given settings until it stops. -/
def history (p : Plan) (settings : Settings) (g : StdGen) (stop : Stop) : List TrialEvent :=
  p.events settings.flushMillis.toNat g 0 (max 1 stop.millis)

/-- If a plan is performed, its events have happened to a new ledger with either kind of store. -/
theorem exists_run {p : Plan} {settings : Settings} {world : World} {g : StdGen}
    {told : Option RunStatistics × Ledger World}
    (performed : p.perform settings world g = .ok told) :
    ∃ (stop : Stop) (receiver : Receiver World) (world' : World), p.stop? = some stop ∧
      told = (((Trial.mk (Ledger.withReceiver settings (.separate ⟨.empty, .empty⟩) receiver world')
        {} false).run (p.history settings g stop)).finish stop.interrupted
          (stop.millis * 1000000)) := by
  unfold perform at performed
  split at performed
  · cases performed
  split at performed
  · cases performed
  · cases performed
  · rename_i ledger stop opened ends
    unfold Ledger.ofSettings at opened
    split at opened
    · cases opened
    · rename_i sink world' routed
      have opened_eq := Except.ok.inj opened
      have told_eq := Except.ok.inj performed
      refine ⟨stop, .ofSink sink, world', ends, ?_⟩
      rw [← told_eq, advance_fst, ← opened_eq]
      rfl

end Plan

end TaskLedger
