import Mathlib
import TaskLedger.Dispatch.Dispatcher
import TaskLedger.Proofs.Pool.Census

/-!
# What is done to a dispatcher

What is done to a dispatcher is a list of deeds: batches are submitted, batches are released in any
order, the crew is closed, and the world of the receiver changes by itself.

* `Dispatcher.act` does a deed, `Dispatcher.run` does a list of them, and `Dispatcher.answers` lists
  where the batches went;
* `submitTo_of_full`, `submitTo_of_empty` and `releaseAt_of_some` say all that can be done;
* `Crew.Alike` and `crew_run`: the crew of a dispatcher is that of the schedule of its calls, so
  everything that is true of schedules is true of it.
-/

namespace TaskLedger

variable {σ : Type}

theorem filterMap_cons_eq {α β : Type} (f : α → Option β) (a : α) (as : List α) :
    (a :: as).filterMap f = (f a).toList ++ as.filterMap f := by
  cases hf : f a <;> simp [hf]

theorem filterMap_concat_eq {α β : Type} (f : α → Option β) (as : List α) (a : α) :
    (as ++ [a]).filterMap f = as.filterMap f ++ (f a).toList := by
  rw [List.filterMap_append, filterMap_cons_eq, List.filterMap_nil, List.append_nil]

/-! ### Deeds -/

/-- What is done to a dispatcher: a batch is submitted; a batch is released, given by its place
among those that are held; the crew is closed; or the world of the receiver changes by itself. -/
inductive Deed (σ : Type) where
  | submit (batch : Batch)
  | release (index : Nat)
  | close
  | stir (change : σ → σ)

namespace Deed

/-- The batch that is submitted. -/
def batch? : Deed σ → Option Batch
  | .submit batch => some batch
  | _ => none

end Deed

namespace Dispatcher

/-- Does a deed, and tells where a batch went that was submitted. -/
def act (d : Dispatcher σ) : Deed σ → Option Submission × Dispatcher σ
  | .submit batch => (some (d.submit batch).1, (d.submit batch).2.1)
  | .release index => (none, (d.releaseAt index).2.1)
  | .close => (none, d.close)
  | .stir change => (none, { d with world := change d.world })

/-- Does deeds in order. -/
def run (d : Dispatcher σ) (deeds : List (Deed σ)) : Dispatcher σ :=
  deeds.foldl (fun d deed => (d.act deed).2) d

/-- Where the batches went that were submitted, in order. -/
def answers (d : Dispatcher σ) : List (Deed σ) → List Submission
  | [] => []
  | deed :: deeds => (d.act deed).1.toList ++ (d.act deed).2.answers deeds

@[simp] theorem run_nil (d : Dispatcher σ) : d.run [] = d := rfl

@[simp] theorem run_cons (d : Dispatcher σ) (deed : Deed σ) (deeds : List (Deed σ)) :
    d.run (deed :: deeds) = (d.act deed).2.run deeds := rfl

theorem run_append (d : Dispatcher σ) (deeds more : List (Deed σ)) :
    d.run (deeds ++ more) = (d.run deeds).run more :=
  List.foldl_append

end Dispatcher

/-! ### What becomes of a batch -/

/-- What a receiver does with a batch, with the caller or with a worker: only a worker can be
held. -/
def Receiver.outcome (receiver : Receiver σ) (here : Bool) (batch : Batch) (world : σ) :
    Reception × σ :=
  if here then ((.ended (receiver.atOnce batch world).1), (receiver.atOnce batch world).2)
  else receiver.receive batch world

theorem Receiver.outcome_here_ne_held (receiver : Receiver σ) (batch : Batch) (world : σ) :
    (receiver.outcome true batch world).1 ≠ .held :=
  Reception.noConfusion

/-- The batch, if it is held. -/
def Reception.held? (batch : Batch) : Reception → Option Batch
  | .ended _ => none
  | .held => some batch

/-- Counts what became of a batch that was submitted. -/
def Totals.countShip (t : Totals) (place : Submission) (reception : Reception) (batch : Batch) :
    Totals :=
  let counted := match reception with
    | .ended ending => t.countEnd ending batch
    | .held => t
  { counted with
    submitted := t.submitted + 1
    callerRuns := t.callerRuns + if place = .callerRan then 1 else 0 }

namespace Dispatcher

/-- What becomes of a batch in a dispatcher. -/
def outcome (d : Dispatcher σ) (batch : Batch) : Reception × σ :=
  d.receiver.outcome (d.crew.place d.limits = .callerRan) batch d.world

theorem callerRuns_countEnd (t : Totals) (ending : Ending) (batch : Batch) :
    (t.countEnd ending batch).callerRuns = t.callerRuns := by
  cases ending <;> rfl

/-- A batch that is not empty goes to its place. -/
theorem submitTo_of_full (d : Dispatcher σ) (place : Submission) {batch : Batch}
    (full : batch.isEmpty = false) :
    (d.submitTo place batch).1 = place ∧
    (d.submitTo place batch).2.1 = { d with
      world := (d.receiver.outcome (place = .callerRan) batch d.world).2
      crew := d.crew.submitTo d.limits place
        ((d.receiver.outcome (place = .callerRan) batch d.world).1.held? batch)
      totals := d.totals.countShip place
        (d.receiver.outcome (place = .callerRan) batch d.world).1 batch } := by
  rw [submitTo, if_neg (by rw [full]; exact Bool.false_ne_true), ship]
  refine ⟨rfl, ?_⟩
  by_cases hp : place = .callerRan
  · simp only [Receiver.outcome, hp, decide_true, shipHere, Totals.countShip,
      callerRuns_countEnd, Reception.held?]
    rfl
  · simp only [Receiver.outcome, hp, decide_false, shipThere]
    rcases d.receiver.receive batch d.world with ⟨ending | _, world⟩
    · simp [Totals.countShip, Reception.held?, callerRuns_countEnd, hp]
    · simp [Totals.countShip, Reception.held?, hp]

/-- An empty batch is only counted. -/
theorem submitTo_of_empty (d : Dispatcher σ) (place : Submission) {batch : Batch}
    (empty : batch.isEmpty = true) :
    (d.submitTo place batch).1 = .skipped ∧ (d.submitTo place batch).2.1 =
      { d with totals := { d.totals with skipped := d.totals.skipped + 1 } } := by
  rw [submitTo, if_pos empty]
  exact ⟨rfl, rfl⟩

/-- A batch that is not empty goes where the next job of the crew goes. -/
theorem submit_of_full (d : Dispatcher σ) {batch : Batch} (full : batch.isEmpty = false) :
    (d.submit batch).1 = d.crew.place d.limits ∧
    (d.submit batch).2.1 = { d with
      world := (d.outcome batch).2
      crew := (d.crew.submit d.limits ((d.outcome batch).1.held? batch)).2
      totals := d.totals.countShip (d.crew.place d.limits) (d.outcome batch).1 batch } :=
  d.submitTo_of_full d.place full

theorem submit_of_empty (d : Dispatcher σ) {batch : Batch} (empty : batch.isEmpty = true) :
    (d.submit batch).1 = .skipped ∧ (d.submit batch).2.1 =
      { d with totals := { d.totals with skipped := d.totals.skipped + 1 } } :=
  d.submitTo_of_empty d.place empty

/-- A batch that is released ends its shipment. -/
theorem releaseAt_of_some (d : Dispatcher σ) {index : Nat} {batch : Batch}
    (held : d.crew.held[index]? = some batch) : (d.releaseAt index).2.1 = { d with
      world := (d.receiver.finish batch d.world).2
      crew := (d.crew.releaseAt d.limits index).2
      totals := d.totals.countEnd (d.receiver.finish batch d.world).1 batch } := by
  simp only [releaseAt, Crew.releaseAt, held]

theorem releaseAt_of_none (d : Dispatcher σ) {index : Nat} (held : d.crew.held[index]? = none) :
    (d.releaseAt index).2.1 = { d with crew := (d.crew.releaseAt d.limits index).2 } := by
  simp only [releaseAt, Crew.releaseAt, held]

end Dispatcher

/-! ### The crew of a dispatcher -/

/-- Two crews that differ only in what their jobs are. -/
structure Crew.Alike {α β : Type} (c : Crew α) (e : Crew β) : Prop where
  held_eq : c.held.length = e.held.length
  live_eq : c.live = e.live
  closed_eq : c.closed = e.closed
  started_eq : c.started = e.started

namespace Crew.Alike

variable {α β : Type} {c : Crew α} {e : Crew β} {limits : Limits}

theorem place_eq (h : c.Alike e) : c.place limits = e.place limits := by
  rw [place, place, idle, idle, busy, busy, h.held_eq, h.live_eq, h.closed_eq]

theorem settle (h : c.Alike e) : (c.settle limits).Alike (e.settle limits) where
  held_eq := h.held_eq
  live_eq := by
    simp only [Crew.settle, busy]
    rw [h.held_eq, h.live_eq, h.closed_eq]
  closed_eq := h.closed_eq
  started_eq := h.started_eq

end Crew.Alike

namespace Dispatcher

/-- The call to the crew that a deed makes, if any. -/
def call? (d : Dispatcher σ) : Deed σ → Option Call
  | .submit batch =>
    if batch.isEmpty then none
    else some (.submit (if (d.outcome batch).1 = .held then .hold else .run))
  | .release index => some (.release index)
  | .close => some .close
  | .stir _ => none

/-- The calls to the crew that deeds make. -/
def callsOfRun (d : Dispatcher σ) : List (Deed σ) → List Call
  | [] => []
  | deed :: deeds => (d.call? deed).toList ++ (d.act deed).2.callsOfRun deeds

theorem limits_act (d : Dispatcher σ) (deed : Deed σ) : (d.act deed).2.limits = d.limits := by
  cases deed with
  | submit batch =>
    cases he : batch.isEmpty with
    | true => rw [act, (d.submit_of_empty he).2]
    | false => rw [act, (d.submit_of_full he).2]
  | release index =>
    cases hh : d.crew.held[index]? with
    | some batch => rw [act, d.releaseAt_of_some hh]
    | none => rw [act, d.releaseAt_of_none hh]
  | close => rfl
  | stir change => rfl

/-- A deed does to the crew what the call does to a schedule. -/
theorem crew_act (d : Dispatcher σ) {s : Schedule} (h : d.crew.Alike s.crew) (deed : Deed σ) :
    (d.act deed).2.crew.Alike (Schedule.run d.limits s (d.call? deed).toList).crew := by
  cases deed with
  | submit batch =>
    simp only [act, call?]
    cases he : batch.isEmpty with
    | true =>
      rw [(d.submit_of_empty he).2, if_pos rfl]
      exact h
    | false =>
      rw [(d.submit_of_full he).2, if_neg Bool.false_ne_true, Option.toList_some,
        Schedule.run_cons, Schedule.run_nil, Schedule.crew_step, Crew.submit_snd, h.place_eq]
      refine Crew.Alike.settle ⟨?_, ?_, ?_, ?_⟩
      · simp only [Call.holds]
        by_cases hp : s.crew.place d.limits = .callerRan
        · simp [hp, h.held_eq]
        · cases (d.outcome batch).1 <;> simp [hp, h.held_eq, Reception.held?]
      · exact congrArg (· + _) h.live_eq
      · simp [h.closed_eq, Call.closes]
      · exact congrArg (· + _) h.started_eq
  | release index =>
    have crew_eq : (d.act (.release index)).2.crew = (d.crew.releaseAt d.limits index).2 := by
      cases hh : d.crew.held[index]? with
      | some batch => rw [act, d.releaseAt_of_some hh]
      | none => rw [act, d.releaseAt_of_none hh]
    rw [crew_eq]
    refine Crew.Alike.settle ⟨?_, h.live_eq, h.closed_eq, h.started_eq⟩
    rw [List.length_eraseIdx, List.length_eraseIdx, h.held_eq]
  | close => exact Crew.Alike.settle ⟨h.held_eq, h.live_eq, rfl, h.started_eq⟩
  | stir change => exact h

/-- The crew of a dispatcher is that of a schedule. -/
theorem crew_run (d : Dispatcher σ) {s : Schedule} (h : d.crew.Alike s.crew)
    (deeds : List (Deed σ)) :
    (d.run deeds).crew.Alike (Schedule.run d.limits s (d.callsOfRun deeds)).crew := by
  induction deeds generalizing d s with
  | nil => exact h
  | cons deed deeds ih =>
    have after := d.crew_act h deed
    rw [← limits_act d deed] at after
    have final := ih (d.act deed).2 after
    rw [limits_act] at final
    rw [callsOfRun, Schedule.run_append, run_cons]
    exact final

end Dispatcher

end TaskLedger
