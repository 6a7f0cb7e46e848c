import Mathlib
import TaskLedger.Proofs.Ledger.Traffic

/-!
# Histories of a ledger

People demand that records are buffered, that a kind is flushed, or that the ledger is shut down,
which may happen in haste.  In between batches are released, and the world of the receiver changes
by itself.  Everything settles after each of these steps.

* `Ledger.advance` makes a step, and tells the answers of the flushes that belong to it;
* `Ledger.after` is the ledger after some steps, and `Ledger.along` lists what each of them does;
* `Ledger.answers` and `Ledger.reports`: the answers of all flushes, and the reports among them;
* `Ledger.batches` and `Ledger.spills`: the batches that are submitted on the way, and the records
  that are spilled because a flush unwinds;
* `Ledger.meet_shutdown_cases` says all that a shutdown does.
-/

namespace TaskLedger

namespace Ledger

variable {σ : Type}

/-! ### Steps -/

/-- What people demand of a ledger: that a record is buffered, that a kind is flushed, or that both
kinds are flushed and the crew is closed. -/
inductive Demand where
  | record (k : Kind) (r : Record k)
  | flush (k : Kind)
  | shutdown

/-- Something that happens to a ledger: a demand is met, if it is a shutdown possibly in haste; a
batch is released, given by its place among those that are held; or the world of the receiver
changes by itself. -/
inductive Step (σ : Type) where
  | meet (demand : Demand) (haste : Bool := false)
  | release (index : Nat)
  | stir (change : σ → σ)

/-- The demand that is met in a step. -/
def Step.demand? : Step σ → Option Demand
  | .meet demand _ => some demand
  | _ => none

/-- Changes the world of the receiver. -/
def stir (l : Ledger σ) (change : σ → σ) : Ledger σ :=
  { l with dispatcher := { l.dispatcher with world := change l.dispatcher.world } }

/-- Meets a demand, and tells the answers of its flushes. -/
def meet (l : Ledger σ) (haste : Bool) : Demand → List FlushAnswer × Ledger σ
  | .record k r => ([], l.record k r)
  | .flush k => ([(l.flush k).1], (l.flush k).2)
  | .shutdown => ((l.flushBoth haste).1, (l.shutdown haste).2)

/-- Makes a step, and tells the answers of its flushes. -/
def advance (l : Ledger σ) : Step σ → List FlushAnswer × Ledger σ
  | .meet demand haste => l.meet haste demand
  | .release index => ([], l.releaseAt index)
  | .stir change => ([], l.stir change)

/-- The ledger after some steps. -/
def after (l : Ledger σ) (steps : List (Step σ)) : Ledger σ :=
  steps.foldl (fun l step => (l.advance step).2) l

/-- What belongs to each of some steps, in order. -/
def along {α : Type} (f : Ledger σ → Step σ → List α) (l : Ledger σ) : List (Step σ) → List α
  | [] => []
  | step :: steps => f l step ++ (l.advance step).2.along f steps

/-- What belongs to the flushes of a step, in order. -/
def ofFlushes {α : Type} (f : Ledger σ → Kind → Option α) (l : Ledger σ) : Step σ → List α
  | .meet (.flush k) _ => (f l k).toList
  | .meet .shutdown _ => (f l .runner).toList ++
    if (l.flush .runner).1.unwinds then [] else (f (l.flush .runner).2 .croner).toList
  | _ => []

/-- The answers of all flushes. -/
def answers : Ledger σ → List (Step σ) → List FlushAnswer :=
  along fun l step => (l.advance step).1

/-- The reports of all flushes. -/
def reports (l : Ledger σ) (steps : List (Step σ)) : List FlushReport :=
  (l.answers steps).filterMap FlushAnswer.report?

/-- The batches that are submitted in a step. -/
def batchesOf : Ledger σ → Step σ → List Batch :=
  ofFlushes outgoing

/-- The batches of all flushes. -/
def batches : Ledger σ → List (Step σ) → List Batch :=
  along batchesOf

/-- The records that are spilled in a step. -/
def spillsOf : Ledger σ → Step σ → List Batch :=
  ofFlushes fun l k => (l.lost? k).map (⟨k, ·⟩)

/-- The records that all flushes spill. -/
def spills : Ledger σ → List (Step σ) → List Batch :=
  along spillsOf

variable {l : Ledger σ} (haste : Bool)

theorem meet_shutdown_eq (l : Ledger σ) : l.meet haste .shutdown = ((l.flushBoth haste).1,
    if (l.flushBoth haste).1.any FlushAnswer.unwinds then (l.flushBoth haste).2
    else (l.flushBoth haste).2.close) := by
  rw [meet, shutdown_eq]
  split
  · rfl
  · rfl

theorem meet_shutdown_of_unwound (unwinds : (l.flush .runner).1.unwinds = true) :
    l.meet haste .shutdown = ([(l.flush .runner).1], (l.flush .runner).2) := by
  rw [meet_shutdown_eq, flushBoth_of_unwound haste unwinds]
  exact congrArg _ (if_pos (List.any_eq_true.2 ⟨_, List.mem_cons_self, unwinds⟩))

theorem meet_shutdown_of_returned (returns : (l.flush .runner).1.unwinds = false) :
    l.meet haste .shutdown =
      let second := (l.flush .runner).2.flushTo (l.secondPlace haste) .croner
      ([(l.flush .runner).1, second.1], if second.1.unwinds then second.2 else second.2.close) := by
  rw [meet_shutdown_eq, flushBoth_of_returned haste returns]
  simp only [List.any_cons, returns, List.any_nil, Bool.or_false, Bool.false_or]

/-- **All that a shutdown does.**  The first flush unwinds; or the second one does; or both return,
and the crew is closed. -/
theorem meet_shutdown_cases (l : Ledger σ) (haste : Bool) :
    let first := l.flush .runner
    let second := first.2.flushTo (l.secondPlace haste) .croner
    (first.1.unwinds = true ∧ l.meet haste .shutdown = ([first.1], first.2)) ∨
    (first.1.unwinds = false ∧ second.1.unwinds = true ∧
      l.meet haste .shutdown = ([first.1, second.1], second.2)) ∨
    (first.1.unwinds = false ∧ second.1.unwinds = false ∧
      l.meet haste .shutdown = ([first.1, second.1], second.2.close)) := by
  intro first second
  cases early : first.1.unwinds with
  | true => exact .inl ⟨rfl, meet_shutdown_of_unwound haste early⟩
  | false =>
    rw [meet_shutdown_of_returned haste early]
    cases late : second.1.unwinds with
    | true => exact .inr (.inl ⟨rfl, rfl, congrArg (Prod.mk _) (if_pos late)⟩)
    | false =>
      exact .inr (.inr ⟨rfl, rfl, congrArg (Prod.mk _) (if_neg (Bool.eq_false_iff.1 late))⟩)

/-- A shutdown makes its second flush if the first one returns. -/
theorem ofFlushes_shutdown {α : Type} (f : Ledger σ → Kind → Option α) :
    l.ofFlushes f (.meet .shutdown haste) = (f l .runner).toList ++
      if (l.flush .runner).1.unwinds then [] else (f (l.flush .runner).2 .croner).toList := rfl

/-! ### What is spilled -/

theorem lost?_eq_none_iff (place : Submission) (k : Kind) :
    l.lost? k = none ↔ (l.flushTo place k).1.unwinds = false := by
  rw [flushTo_unwinds_iff, Option.isSome_eq_false_iff, Option.isNone_iff_eq_none]

/-- A step spills nothing exactly if no flush unwinds. -/
theorem spillsOf_eq_nil_iff (step : Step σ) : l.spillsOf step = [] ↔
    ∀ answer ∈ (l.advance step).1, answer.unwinds = false := by
  cases step with
  | release index => exact iff_of_true rfl nofun
  | stir change => exact iff_of_true rfl nofun
  | meet demand haste =>
    cases demand with
    | record k r => exact iff_of_true rfl nofun
    | flush k =>
      show ((l.lost? k).map _).toList = [] ↔ ∀ answer ∈ [(l.flush k).1], _
      rw [Option.toList_eq_nil_iff, Option.map_eq_none_iff, lost?_eq_none_iff l.dispatcher.place,
        List.forall_mem_singleton]
      rfl
    | shutdown =>
      have first := lost?_eq_none_iff (l := l) l.dispatcher.place .runner
      have second := lost?_eq_none_iff (l := (l.flush .runner).2) (l.secondPlace haste) .croner
      rw [spillsOf, ofFlushes_shutdown, List.append_eq_nil_iff, Option.toList_eq_nil_iff,
        Option.map_eq_none_iff, first, ← flush]
      rcases l.meet_shutdown_cases haste with ⟨early, shut⟩ | ⟨early, late, shut⟩ |
        ⟨early, late, shut⟩
      · simp [advance, shut, early]
      · simp [advance, shut, early, second, late]
      · simp [advance, shut, early, second, late]

end Ledger

end TaskLedger
