import Mathlib
import TaskLedger.Proofs.Dispatch.Deeds

/-!
# The accounts of a dispatcher

Whatever is done to a dispatcher, and whatever its receiver does with every batch, no batch is lost
on the way to the receiver, and everything that became of one is counted once.

* `Receiver.logged` writes down which batches were passed to a receiver and how their shipments
  ended; `run_logged` says that this changes nothing else;
* `Accounts`: how the totals of a dispatcher, the batches that it holds, and the log belong
  together; `Accounts.act` keeps this up, one deed after the other;
* `Receiver.tamed` refuses where a receiver crashes; `run_tamed` says that nobody can tell;
* `accounts_of_deeds` puts this together.
-/

namespace TaskLedger

open scoped List

variable {σ : Type}

/-! ### Writing down what is passed to a receiver -/

/-- The batches that were passed to a receiver, in order, and those whose shipment ended, in that
order, and how. -/
structure Log where
  received : List Batch := []
  ended : List (Batch × Ending) := []

namespace Log

/-- Writes down how a shipment ended. -/
def finish (log : Log) (batch : Batch) (ending : Ending) : Log :=
  { log with ended := log.ended ++ [(batch, ending)] }

/-- Writes down a batch, and how its shipment ended if it did. -/
def receive (log : Log) (batch : Batch) : Reception → Log
  | .ended ending => { log with received := log.received ++ [batch] }.finish batch ending
  | .held => { log with received := log.received ++ [batch] }

theorem received_receive (log : Log) (batch : Batch) (reception : Reception) :
    (log.receive batch reception).received = log.received ++ [batch] := by
  cases reception <;> rfl

end Log

/-- A receiver that writes down what is passed to it. -/
def Receiver.logged (receiver : Receiver σ) : Receiver (σ × Log) where
  name := receiver.name
  receive batch world :=
    let (reception, next) := receiver.receive batch world.1
    (reception, next, world.2.receive batch reception)
  finish batch world :=
    let (ending, next) := receiver.finish batch world.1
    (ending, next, world.2.finish batch ending)

/-- The same deed beside a log. -/
def Deed.logged : Deed σ → Deed (σ × Log)
  | .submit batch => .submit batch
  | .release index => .release index
  | .close => .close
  | .stir change => .stir fun world => (change world.1, world.2)

theorem Receiver.outcome_logged (receiver : Receiver σ) (here : Bool) (batch : Batch) (world : σ)
    (log : Log) : receiver.logged.outcome here batch (world, log) =
      ((receiver.outcome here batch world).1, (receiver.outcome here batch world).2,
        log.receive batch (receiver.outcome here batch world).1) := by
  cases here with
  | false => rfl
  | true =>
    rcases hr : receiver.receive batch world with ⟨ending | _, next⟩
    · simp [Receiver.outcome, Receiver.atOnce, Receiver.logged, hr]
    · simp [Receiver.outcome, Receiver.atOnce, Receiver.logged, hr, Log.receive, Log.finish]

namespace Dispatcher

/-- The same dispatcher beside a log. -/
def logged (d : Dispatcher σ) (log : Log) : Dispatcher (σ × Log) where
  limits := d.limits
  receiver := d.receiver.logged
  world := (d.world, log)
  crew := d.crew
  totals := d.totals

/-- What is written down when a deed is done. -/
def logOf (d : Dispatcher σ) (log : Log) : Deed σ → Log
  | .submit batch => if batch.isEmpty then log else log.receive batch (d.outcome batch).1
  | .release index =>
    match d.crew.held[index]? with
    | some batch => log.finish batch (d.receiver.finish batch d.world).1
    | none => log
  | _ => log

/-- Writing things down changes nothing else. -/
theorem act_logged (d : Dispatcher σ) (log : Log) (deed : Deed σ) :
    (d.logged log).act deed.logged =
      ((d.act deed).1, (d.act deed).2.logged (d.logOf log deed)) := by
  cases deed with
  | submit batch =>
    simp only [act, Deed.logged, logOf]
    cases he : batch.isEmpty with
    | true =>
      obtain ⟨there, next⟩ := d.submit_of_empty he
      obtain ⟨there', next'⟩ := (d.logged log).submit_of_empty he
      rw [there, next, there', next', if_pos rfl]
      rfl
    | false =>
      obtain ⟨there, next⟩ := d.submit_of_full he
      obtain ⟨there', next'⟩ := (d.logged log).submit_of_full he
      have seen : (d.logged log).outcome batch = ((d.outcome batch).1, (d.outcome batch).2,
          log.receive batch (d.outcome batch).1) := Receiver.outcome_logged ..
      rw [there, next, there', next', seen, if_neg Bool.false_ne_true]
      rfl
  | release index =>
    simp only [act, Deed.logged, logOf]
    cases hh : d.crew.held[index]? with
    | some batch => rw [d.releaseAt_of_some hh, (d.logged log).releaseAt_of_some hh]; rfl
    | none => rw [d.releaseAt_of_none hh, (d.logged log).releaseAt_of_none hh]; rfl
  | close => rfl
  | stir change => rfl

/-- What is written down when deeds are done. -/
def logOfRun (d : Dispatcher σ) (log : Log) : List (Deed σ) → Log
  | [] => log
  | deed :: deeds => (d.act deed).2.logOfRun (d.logOf log deed) deeds

theorem run_logged (d : Dispatcher σ) (log : Log) (deeds : List (Deed σ)) :
    (d.logged log).run (deeds.map Deed.logged) = (d.run deeds).logged (d.logOfRun log deeds) ∧
      (d.logged log).answers (deeds.map Deed.logged) = d.answers deeds := by
  induction deeds generalizing d log with
  | nil => exact ⟨rfl, rfl⟩
  | cons deed deeds ih =>
    obtain ⟨run_eq, answers_eq⟩ := ih (d.act deed).2 (d.logOf log deed)
    rw [List.map_cons, run_cons, run_cons, answers, answers, act_logged, answers_eq]
    exact ⟨run_eq, rfl⟩

end Dispatcher

/-! ### The accounts -/

/-- The totals agree with how shipments ended: the batches that the receiver took are counted, and
those that were lost, and so are their records. -/
structure Totals.Counted (t : Totals) (ended : List (Batch × Ending)) : Prop where
  persistedBatches_eq : t.persistedBatches = ended.countP (·.2 = .stored)
  persistedRecords_eq : t.persistedRecords = ((ended.filter (·.2 = .stored)).map (·.1.size)).sum
  failedBatches_eq : t.failedBatches = ended.countP (·.2 ≠ .stored)
  failedRecords_eq : t.failedRecords = ((ended.filter (·.2 ≠ .stored)).map (·.1.size)).sum

namespace Totals.Counted

variable {t : Totals} {ended : List (Batch × Ending)}

/-- One more shipment ends. -/
theorem countEnd (h : t.Counted ended) (batch : Batch) (ending : Ending) :
    (t.countEnd ending batch).Counted (ended ++ [(batch, ending)]) := by
  obtain ⟨persistedBatches, persistedRecords, failedBatches, failedRecords⟩ := h
  cases ending <;> constructor <;>
    simp [Totals.countEnd, persistedBatches, persistedRecords, failedBatches, failedRecords]

/-- Every shipment that ended is counted once. -/
theorem batches_eq (h : t.Counted ended) : t.persistedBatches + t.failedBatches = ended.length := by
  have split := List.length_eq_countP_add_countP (fun entry : Batch × Ending => entry.2 = .stored)
    (l := ended)
  simp only [h.persistedBatches_eq, h.failedBatches_eq, split, decide_not, decide_eq_true_eq, ne_eq]

/-- So are the records. -/
theorem records_eq (h : t.Counted ended) :
    t.persistedRecords + t.failedRecords = (ended.map (·.1.size)).sum := by
  rw [h.persistedRecords_eq, h.failedRecords_eq]
  clear h
  induction ended with
  | nil => rfl
  | cons entry ended ih =>
    by_cases stored : entry.2 = .stored <;> simp [stored] at ih ⊢ <;> omega

end Totals.Counted

/-- The totals of a dispatcher and the batches that it holds agree with what was submitted to it,
what it answered, and what was passed to its receiver.  Every batch that is not empty was passed to
the receiver, once and as it is; its shipment ended, or it is held.  Every batch was answered, and
exactly the empty ones were skipped. -/
structure Accounts (batches : List Batch) (answers : List Submission) (d : Dispatcher σ)
    (log : Log) : Prop where
  received_eq : log.received = batches.filter fun batch => !batch.isEmpty
  ended_perm : log.ended.map (·.1) ++ d.crew.held ~ log.received
  counted : d.totals.Counted log.ended
  submitted_eq : d.totals.submitted = log.received.length
  skipped_eq : d.totals.skipped = batches.countP (·.isEmpty)
  callerRuns_eq : d.totals.callerRuns = answers.count .callerRan
  answered : List.Forall₂ (fun batch answer => answer = .skipped ↔ batch.isEmpty = true)
    batches answers

namespace Accounts

variable {batches : List Batch} {answers : List Submission} {d : Dispatcher σ} {log : Log}

theorem opening (limits : Limits) (receiver : Receiver σ) (world : σ) :
    Accounts [] [] { limits, receiver, world } {} where
  received_eq := rfl
  ended_perm := List.Perm.refl _
  counted := ⟨rfl, rfl, rfl, rfl⟩
  submitted_eq := rfl
  skipped_eq := rfl
  callerRuns_eq := rfl
  answered := .nil

theorem submit_empty (h : Accounts batches answers d log) {batch : Batch}
    (empty : batch.isEmpty = true) :
    Accounts (batches ++ [batch]) (answers ++ [.skipped])
      { d with totals := { d.totals with skipped := d.totals.skipped + 1 } } log where
  received_eq := by simp [h.received_eq, empty]
  ended_perm := h.ended_perm
  counted := ⟨h.counted.1, h.counted.2, h.counted.3, h.counted.4⟩
  submitted_eq := h.submitted_eq
  skipped_eq := by simp [h.skipped_eq, empty]
  callerRuns_eq := by simp [h.callerRuns_eq]
  answered := List.rel_append h.answered (.cons (by simp [empty]) .nil)

/-- A batch that is not empty is passed to the receiver, and its shipment ends or it is held; with
the caller it is not held. -/
theorem submit_full (h : Accounts batches answers d log) {batch : Batch}
    (full : batch.isEmpty = false) {place : Submission} {reception : Reception} {world : σ}
    {crew : Crew Batch} (there : place ≠ .skipped)
    (held_eq : crew.held = d.crew.held ++ (reception.held? batch).toList) :
    Accounts (batches ++ [batch]) (answers ++ [place])
      { d with world, crew, totals := d.totals.countShip place reception batch }
      (log.receive batch reception) := by
  refine
    { received_eq := ?_
      ended_perm := ?_
      counted := ?_
      submitted_eq := ?_
      skipped_eq := ?_
      callerRuns_eq := ?_
      answered := ?_ }
  · rw [Log.received_receive, h.received_eq, List.filter_append]
    simp [full]
  -- the batch is held, or it is the last one whose shipment ended
  · rw [Log.received_receive, held_eq]
    have before := h.ended_perm.append_right [batch]
    cases reception with
    | held =>
      rw [List.append_assoc] at before
      exact before
    | ended ending =>
      refine List.Perm.trans ?_ before
      simp only [Log.receive, Log.finish, Reception.held?, Option.toList_none, List.append_nil,
        List.map_append, List.map_singleton, List.append_assoc]
      exact List.perm_append_comm.append_left _
  · cases reception with
    | held => exact ⟨h.counted.1, h.counted.2, h.counted.3, h.counted.4⟩
    | ended ending =>
      have counted := h.counted.countEnd batch ending
      exact ⟨counted.1, counted.2, counted.3, counted.4⟩
  · rw [Log.received_receive, List.length_append, ← h.submitted_eq]
    rfl
  · rw [List.countP_append, ← h.skipped_eq]
    cases reception with
    | held => simp [Totals.countShip, full]
    | ended ending => cases ending <;> simp [Totals.countShip, Totals.countEnd, full]
  · rw [List.count_append, ← h.callerRuns_eq, List.count_singleton]
    simp [Totals.countShip]
  · exact List.rel_append h.answered (.cons (by simp [full, there]) .nil)

/-- A batch that is released ends its shipment. -/
theorem release (h : Accounts batches answers d log) {index : Nat} {batch : Batch}
    (held : d.crew.held[index]? = some batch) {ending : Ending} {world : σ} {crew : Crew Batch}
    (held_eq : crew.held = d.crew.held.eraseIdx index) :
    Accounts batches answers { d with world, crew, totals := d.totals.countEnd ending batch }
      (log.finish batch ending) where
  received_eq := h.received_eq
  ended_perm := by
    obtain ⟨inside, rfl⟩ := List.getElem?_eq_some_iff.1 held
    refine List.Perm.trans ?_ h.ended_perm
    rw [held_eq, Log.finish, List.map_append, List.append_assoc]
    exact (List.getElem_cons_eraseIdx_perm inside).append_left _
  counted := h.counted.countEnd batch ending
  submitted_eq := by
    cases ending <;> exact h.submitted_eq
  skipped_eq := by
    cases ending <;> exact h.skipped_eq
  callerRuns_eq := by
    rw [Dispatcher.callerRuns_countEnd]
    exact h.callerRuns_eq
  answered := h.answered

/-- A change of the world, or of the crew that lets go no batch, is none of the books' business. -/
theorem same (h : Accounts batches answers d log) {world : σ} {crew : Crew Batch}
    (held_eq : crew.held = d.crew.held) : Accounts batches answers { d with world, crew } log :=
  { h with ended_perm := by rw [held_eq]; exact h.ended_perm }

/-- Every deed keeps the books in order. -/
theorem act (h : Accounts batches answers d log) (deed : Deed σ) :
    Accounts (batches ++ deed.batch?.toList) (answers ++ (d.act deed).1.toList) (d.act deed).2
      (d.logOf log deed) := by
  cases deed with
  | submit batch =>
    simp only [Dispatcher.act, Deed.batch?, Option.toList_some, Dispatcher.logOf]
    cases he : batch.isEmpty with
    | true =>
      obtain ⟨there, next⟩ := d.submit_of_empty he
      rw [there, next, if_pos rfl]
      exact h.submit_empty he
    | false =>
      obtain ⟨there, next⟩ := d.submit_of_full he
      rw [there, next, if_neg Bool.false_ne_true]
      refine h.submit_full he (Crew.place_ne_skipped d.limits d.crew) ?_
      rw [Crew.submit_snd, Crew.held_settle]
      -- with the caller nothing can be held
      by_cases hp : d.crew.place d.limits = .callerRan
      · rw [if_pos hp]
        have ends := d.receiver.outcome_here_ne_held batch d.world
        simp only [Dispatcher.outcome, hp, decide_true]
        cases ho : (d.receiver.outcome true batch d.world).1 with
        | held => exact absurd ho ends
        | ended ending => exact (List.append_nil _).symm
      · rw [if_neg hp]
  | release index =>
    simp only [Dispatcher.act, Deed.batch?, Option.toList_none, List.append_nil, Dispatcher.logOf]
    cases hh : d.crew.held[index]? with
    | some batch =>
      rw [d.releaseAt_of_some hh]
      exact h.release hh rfl
    | none =>
      rw [d.releaseAt_of_none hh]
      refine h.same ?_
      exact List.eraseIdx_of_length_le (List.getElem?_eq_none_iff.1 hh)
  | close =>
    simp only [Dispatcher.act, Deed.batch?, Option.toList_none, List.append_nil]
    exact h.same rfl
  | stir change =>
    simp only [Dispatcher.act, Deed.batch?, Option.toList_none, List.append_nil]
    exact h.same rfl

/-- The books stay in order whatever is done. -/
theorem run (h : Accounts batches answers d log) (deeds : List (Deed σ)) :
    Accounts (batches ++ deeds.filterMap Deed.batch?) (answers ++ d.answers deeds) (d.run deeds)
      (d.logOfRun log deeds) := by
  induction deeds generalizing batches answers d log with
  | nil => simpa [Dispatcher.answers, Dispatcher.logOfRun] using h
  | cons deed deeds ih =>
    have next := ih (h.act deed)
    rw [List.append_assoc, List.append_assoc] at next
    rw [filterMap_cons_eq]
    exact next

end Accounts

/-! ### Crashes -/

/-- A refusal in the place of a crash. -/
def Ending.tamed : Ending → Ending
  | .crashed => .refused
  | ending => ending

/-- A refusal in the place of a crash. -/
def Reception.tamed : Reception → Reception
  | .ended ending => .ended ending.tamed
  | .held => .held

/-- A receiver that refuses where another one crashes. -/
def Receiver.tamed (receiver : Receiver σ) : Receiver σ where
  name := receiver.name
  receive batch world :=
    let (reception, next) := receiver.receive batch world
    (reception.tamed, next)
  finish batch world :=
    let (ending, next) := receiver.finish batch world
    (ending.tamed, next)

theorem Receiver.outcome_tamed (receiver : Receiver σ) (here : Bool) (batch : Batch) (world : σ) :
    receiver.tamed.outcome here batch world =
      ((receiver.outcome here batch world).1.tamed, (receiver.outcome here batch world).2) := by
  cases here with
  | false => rfl
  | true =>
    rcases hr : receiver.receive batch world with ⟨ending | _, next⟩
    · simp [Receiver.outcome, Receiver.atOnce, Receiver.tamed, hr, Reception.tamed]
    · simp [Receiver.outcome, Receiver.atOnce, Receiver.tamed, hr, Reception.tamed]

@[simp] theorem Totals.countEnd_tamed (t : Totals) (ending : Ending) (batch : Batch) :
    t.countEnd ending.tamed batch = t.countEnd ending batch := by
  cases ending <;> rfl

@[simp] theorem Totals.countShip_tamed (t : Totals) (place : Submission) (reception : Reception)
    (batch : Batch) :
    t.countShip place reception.tamed batch = t.countShip place reception batch := by
  cases reception with
  | held => rfl
  | ended ending => simp only [Reception.tamed, Totals.countShip, Totals.countEnd_tamed]

@[simp] theorem Reception.held?_tamed (reception : Reception) (batch : Batch) :
    reception.tamed.held? batch = reception.held? batch := by
  cases reception <;> rfl

namespace Dispatcher

/-- The same dispatcher with a receiver that refuses where that of the other crashes. -/
def tamed (d : Dispatcher σ) : Dispatcher σ :=
  { d with receiver := d.receiver.tamed }

theorem act_tamed (d : Dispatcher σ) (deed : Deed σ) :
    d.tamed.act deed = ((d.act deed).1, (d.act deed).2.tamed) := by
  cases deed with
  | submit batch =>
    simp only [act]
    cases he : batch.isEmpty with
    | true =>
      obtain ⟨there, next⟩ := d.submit_of_empty he
      obtain ⟨there', next'⟩ := d.tamed.submit_of_empty he
      rw [there, next, there', next']
      rfl
    | false =>
      obtain ⟨there, next⟩ := d.submit_of_full he
      obtain ⟨there', next'⟩ := d.tamed.submit_of_full he
      have seen : d.tamed.outcome batch = ((d.outcome batch).1.tamed, (d.outcome batch).2) :=
        Receiver.outcome_tamed ..
      rw [there, next, there', next', seen, Totals.countShip_tamed, Reception.held?_tamed]
      rfl
  | release index =>
    simp only [act]
    cases hh : d.crew.held[index]? with
    | some batch =>
      have finished : d.tamed.receiver.finish batch d.tamed.world =
        ((d.receiver.finish batch d.world).1.tamed, (d.receiver.finish batch d.world).2) := rfl
      rw [d.releaseAt_of_some hh, d.tamed.releaseAt_of_some hh, finished, Totals.countEnd_tamed]
      rfl
    | none =>
      rw [d.releaseAt_of_none hh, d.tamed.releaseAt_of_none hh]
      rfl
  | close => rfl
  | stir change => rfl

/-- Nobody can tell a crash from a refusal. -/
theorem run_tamed (d : Dispatcher σ) (deeds : List (Deed σ)) :
    d.tamed.run deeds = (d.run deeds).tamed ∧ d.tamed.answers deeds = d.answers deeds := by
  induction deeds generalizing d with
  | nil => exact ⟨rfl, rfl⟩
  | cons deed deeds ih =>
    obtain ⟨run_eq, answers_eq⟩ := ih (d.act deed).2
    rw [run_cons, run_cons, answers, answers, act_tamed, answers_eq]
    exact ⟨run_eq, rfl⟩

end Dispatcher

/-! ### All in all -/

/-- Only batches that are not empty run with the caller. -/
theorem count_callerRan_le {batches : List Batch} {answers : List Submission}
    (h : List.Forall₂ (fun batch answer => answer = .skipped ↔ batch.isEmpty = true)
      batches answers) :
    answers.count .callerRan ≤ (batches.filter fun batch => !batch.isEmpty).length := by
  induction h with
  | nil => exact Nat.le_refl _
  | @cons batch answer batches answers skips _ ih =>
    by_cases ran : answer = .callerRan
    · have full : batch.isEmpty = false := by
        rw [← Bool.not_eq_true, ← skips, ran]
        exact Submission.noConfusion
      rw [ran, List.count_cons_self, List.filter_cons_of_pos (by rw [full]; rfl), List.length_cons]
      exact Nat.succ_le_succ ih
    · rw [List.count_cons_of_ne ran]
      exact Nat.le_trans ih ((List.sublist_cons_self batch batches).filter _).length_le

/-- Whatever is done to a dispatcher with a crew of its own, and whatever its receiver does: every
batch that is not empty is passed to the receiver once and as it is, and it is held or its shipment
has ended; every batch and every record is counted once; every submission is answered, and a crash
makes no difference.  The crew of the dispatcher is that of the schedule of its calls, of which it
is taken that a worker can be started whenever one is to be. -/
theorem accounts_of_deeds (limits : Limits) (receiver : Receiver σ) (world : σ)
    (deeds : List (Deed σ)) :
    let first : Dispatcher σ := { limits, receiver, world }
    let d := first.run deeds
    let log := first.logOfRun {} deeds
    let batches := deeds.filterMap Deed.batch?
    let answers := first.answers deeds
    ((first.logged {}).run (deeds.map Deed.logged) = d.logged log ∧
      (first.logged {}).answers (deeds.map Deed.logged) = answers) ∧
    log.received = batches.filter (fun batch => !batch.isEmpty) ∧
    log.ended.map (·.1) ++ d.crew.held ~ log.received ∧
    d.totals.submitted = d.totals.persistedBatches + d.totals.failedBatches + d.crew.busy ∧
    ((batches.filter fun batch => !batch.isEmpty).map Batch.size).sum =
      d.totals.persistedRecords + d.totals.failedRecords + (d.crew.held.map Batch.size).sum ∧
    d.totals.skipped = batches.countP (·.isEmpty) ∧
    (∀ batch, batch.isEmpty = true → (d.submit batch).2.1.crew = d.crew ∧
      (d.submit batch).2.1.world = d.world) ∧
    d.totals.callerRuns = answers.count .callerRan ∧
    d.totals.callerRuns ≤ d.totals.submitted ∧
    List.Forall₂ (fun batch answer => answer = .skipped ↔ batch.isEmpty = true) batches answers ∧
    (first.tamed.run deeds = d.tamed ∧ first.tamed.answers deeds = answers) ∧
    d.crew.Alike (Schedule.run limits {} (first.callsOfRun deeds)).crew := by
  intro first d log batches answers
  have accounts : Accounts batches answers d log :=
    (Accounts.opening limits receiver world).run deeds
  have in_order := accounts.ended_perm
  refine ⟨first.run_logged {} deeds, accounts.received_eq, in_order, ?_, ?_, accounts.skipped_eq,
    ?_, accounts.callerRuns_eq, ?_, accounts.answered, first.run_tamed deeds,
    first.crew_run ⟨rfl, rfl, rfl, rfl⟩ deeds⟩
  · rw [accounts.submitted_eq, accounts.counted.batches_eq, ← in_order.length_eq,
      List.length_append, List.length_map]
    rfl
  · rw [← accounts.received_eq, accounts.counted.records_eq, ← (in_order.map Batch.size).sum_nat,
      List.map_append, List.sum_append, List.map_map]
    rfl
  · intro batch empty
    rw [(d.submit_of_empty empty).2]
    exact ⟨rfl, rfl⟩
  · rw [accounts.callerRuns_eq, accounts.submitted_eq, accounts.received_eq]
    exact count_callerRan_le accounts.answered

end TaskLedger
