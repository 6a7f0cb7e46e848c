import Mathlib
import TaskLedger.Proofs.Ledger.Steps
import TaskLedger.Proofs.Ledger.Timing

/-!
# Counting does not depend on shipping

Two ledgers with the same books get the same demands.  Their levels, their crews and their receivers
may differ, and so may everything that happens to the batches: still nobody can tell the ledgers
apart who sees the books, the records that are buffered, which flushes unwind, and what the reports
say of the counting.

* `Ledger.Sight` is what is seen when a demand has been met; `Sight.counted` leaves out what a
  report says of the shipping;
* `SameDesk`: the books and the buffers are the same.  Every flush keeps it so, and its answer says
  the same of the counting (`SameDesk.flushTo`);
* `Receiver.HoldsLike`: two receivers hold the same batches, and may differ in how shipments end;
* `Dispatcher.Twin`: with such receivers the crews are the same, so every batch goes the same way
  (`Twin.submitTo`);
* `counting_apart_from_shipping` puts this together.
-/

namespace TaskLedger

variable {σ τ : Type}

/-! ### What is seen -/

/-- A report without what it says of the shipping. -/
def FlushReport.counted (report : FlushReport) : FlushReport :=
  { report with selected := 0, submission := .skipped }

namespace FlushAnswer

/-- An answer without what a report says of the shipping. -/
def counted : FlushAnswer → FlushAnswer
  | report r => report r.counted
  | answer => answer

theorem unwinds_counted (answer : FlushAnswer) : answer.counted.unwinds = answer.unwinds := by
  cases answer <;> rfl

theorem any_unwinds_counted (answers : List FlushAnswer) :
    (answers.map counted).any unwinds = answers.any unwinds := by
  rw [List.any_map]
  exact congrArg (answers.any ·) (funext unwinds_counted)

end FlushAnswer

namespace Ledger

/-- What is seen of a ledger: the answers of the flushes, the counters, and how many records of
either kind are buffered. -/
structure Sight where
  answers : List FlushAnswer
  books : Books
  pending : PerKind fun _ => Nat

/-- What is seen, without what the reports say of the shipping. -/
def Sight.counted (sight : Sight) : Sight :=
  { sight with answers := sight.answers.map FlushAnswer.counted }

/-- What is seen after a step. -/
def sight (l : Ledger σ) (step : Step σ) : Sight where
  answers := (l.advance step).1
  books := (l.advance step).2.books
  pending := ⟨(l.advance step).2.pending .runner, (l.advance step).2.pending .croner⟩

/-- What is seen each time that a demand has been met. -/
def sights : Ledger σ → List (Step σ) → List Sight :=
  along fun l step => (step.demand?.map fun _ => l.sight step).toList

/-- Steps in which the same demands are met, without haste, and nothing else happens. -/
def Step.bare (steps : List (Step σ)) : List (Step τ) :=
  (steps.filterMap Step.demand?).map .meet

/-! ### The same desk -/

/-- Two ledgers with the same books, in which the same records are buffered. -/
structure SameDesk (l : Ledger σ) (m : Ledger τ) : Prop where
  books_eq : l.books = m.books
  buffers_eq : l.buffers = m.buffers

namespace SameDesk

variable {l : Ledger σ} {m : Ledger τ}

theorem accepts_eq (h : SameDesk l m) (k : Kind) : l.accepts k = m.accepts k := by
  funext records
  rw [accepts, accepts, h.books_eq]

/-- Wherever the batch goes, a flush counts the same records, or unwinds at the same of them. -/
theorem flushTo (h : SameDesk l m) (place place' : Submission) (k : Kind) :
    (l.flushTo place k).1.counted = (m.flushTo place' k).1.counted ∧
      SameDesk (l.flushTo place k).2 (m.flushTo place' k).2 := by
  have same := h.buffers_eq
  have books_eq : ∀ f, l.books.update k f = m.books.update k f :=
    fun f => congrArg (Books.update · k f) h.books_eq
  have buffers_eq : l.buffers.set k .empty = m.buffers.set k .empty :=
    congrArg (PerKind.set · k .empty) same
  by_cases nothing : (m.buffers.get k).toList = []
  · rw [flushTo_of_nil _ nothing, flushTo_of_nil _ (same ▸ nothing)]
    exact ⟨rfl, h⟩
  cases taken : m.accepts k (m.buffers.get k).toList with
  | true =>
    rw [flushTo_of_accepts _ nothing taken, flushTo_of_accepts _ (same ▸ nothing)
      (h.accepts_eq k ▸ same ▸ taken), same]
    exact ⟨rfl, books_eq _, buffers_eq⟩
  | false =>
    rw [flushTo_of_refused _ nothing taken, flushTo_of_refused _ (same ▸ nothing)
      (h.accepts_eq k ▸ same ▸ taken), same]
    exact ⟨rfl, books_eq _, buffers_eq⟩

theorem record (h : SameDesk l m) (k : Kind) (r : Record k) :
    SameDesk (l.record k r) (m.record k r) where
  books_eq := h.books_eq
  buffers_eq := by
    show l.buffers.set k ((l.buffers.get k).append r.normal) = m.buffers.set k _
    rw [h.buffers_eq]

theorem flushBoth (h : SameDesk l m) (haste haste' : Bool) :
    (l.flushBoth haste).1.map FlushAnswer.counted =
        (m.flushBoth haste').1.map FlushAnswer.counted ∧
      SameDesk (l.flushBoth haste).2 (m.flushBoth haste').2 := by
  obtain ⟨first, next⟩ := h.flushTo l.dispatcher.place m.dispatcher.place .runner
  obtain ⟨second, last⟩ := next.flushTo (l.secondPlace haste) (m.secondPlace haste') .croner
  rw [← flush, ← flush] at first
  have unwinds_eq : (l.flush .runner).1.unwinds = (m.flush .runner).1.unwinds := by
    rw [← FlushAnswer.unwinds_counted, first, FlushAnswer.unwinds_counted]
  cases early : (m.flush .runner).1.unwinds with
  | true =>
    rw [flushBoth_of_unwound haste (unwinds_eq.trans early), flushBoth_of_unwound haste' early,
      List.map_singleton, List.map_singleton, first]
    exact ⟨rfl, next⟩
  | false =>
    rw [flushBoth_of_returned haste (unwinds_eq.trans early), flushBoth_of_returned haste' early]
    exact ⟨congrArg₂ (fun answer other => [answer, other]) first second, last⟩

/-- Met in haste or not, the same demand is counted the same way. -/
theorem meet (h : SameDesk l m) (haste haste' : Bool) (demand : Demand) :
    (l.meet haste demand).1.map FlushAnswer.counted =
        (m.meet haste' demand).1.map FlushAnswer.counted ∧
      SameDesk (l.meet haste demand).2 (m.meet haste' demand).2 := by
  cases demand with
  | record k r => exact ⟨rfl, h.record k r⟩
  | flush k =>
    obtain ⟨answer_eq, next⟩ := h.flushTo l.dispatcher.place m.dispatcher.place k
    exact ⟨congrArg ([·]) answer_eq, next⟩
  | shutdown =>
    obtain ⟨answers_eq, next⟩ := h.flushBoth haste haste'
    rw [meet_shutdown_eq, meet_shutdown_eq]
    refine ⟨answers_eq, ?_⟩
    rw [← FlushAnswer.any_unwinds_counted, answers_eq, FlushAnswer.any_unwinds_counted]
    split
    · exact next
    · exact ⟨next.books_eq, next.buffers_eq⟩

/-- A step in which no demand is met leaves the desk alone. -/
theorem advance_of_none (h : SameDesk l m) {step : Step σ} (other : step.demand? = none) :
    SameDesk (l.advance step).2 m := by
  cases step with
  | meet demand => cases other
  | release index => exact ⟨h.books_eq, h.buffers_eq⟩
  | stir change => exact ⟨h.books_eq, h.buffers_eq⟩

theorem sight (h : SameDesk l m) (haste haste' : Bool) (demand : Demand) :
    (l.sight (.meet demand haste)).counted = (m.sight (.meet demand haste')).counted := by
  obtain ⟨answers_eq, books_eq, buffers_eq⟩ := h.meet haste haste' demand
  simp only [Ledger.sight, advance, Sight.counted, answers_eq, books_eq, pending, buffers_eq]

/-- What is seen of the counting depends on the demands only. -/
theorem run (h : SameDesk l m) (steps : List (Step σ)) :
    (l.sights steps).map Sight.counted = (m.sights (Step.bare steps)).map Sight.counted ∧
      SameDesk (l.after steps) (m.after (Step.bare steps)) := by
  induction steps generalizing l m with
  | nil => exact ⟨rfl, h⟩
  | cons step steps ih =>
    cases hd : step.demand? with
    | none =>
      have same : Step.bare (step :: steps) = (Step.bare steps : List (Step τ)) := by
        rw [Step.bare, List.filterMap_cons_none hd, Step.bare]
      rw [same, Ledger.sights, along, hd]
      exact ih (h.advance_of_none hd)
    | some demand =>
      obtain ⟨haste, rfl⟩ : ∃ haste, step = .meet demand haste := by
        cases step <;> cases hd
        exact ⟨_, rfl⟩
      obtain ⟨sights_eq, last⟩ := ih (h.meet haste false demand).2
      refine ⟨?_, last⟩
      show (l.sight (.meet demand haste) :: (l.meet haste demand).2.sights steps).map _ =
        (m.sight (.meet demand) :: (m.meet false demand).2.sights (Step.bare steps)).map _
      rw [List.map_cons, List.map_cons, h.sight haste false demand, sights_eq]

/-- Two histories with the same demands cannot be told apart by the counting. -/
theorem run_of_bare_eq (h : SameDesk l m) {steps : List (Step σ)} {steps' : List (Step τ)}
    (same : steps.filterMap Step.demand? = steps'.filterMap Step.demand?) :
    (l.sights steps).map Sight.counted = (m.sights steps').map Sight.counted ∧
      SameDesk (l.after steps) (m.after steps') := by
  obtain ⟨left_sights, left⟩ := h.run steps
  obtain ⟨right_sights, right⟩ := (⟨rfl, rfl⟩ : SameDesk m m).run steps'
  rw [Step.bare, same, ← Step.bare] at left_sights left
  refine ⟨left_sights.trans right_sights.symm, ?_, ?_⟩
  · exact left.books_eq.trans right.books_eq.symm
  · exact left.buffers_eq.trans right.buffers_eq.symm

end SameDesk

end Ledger

/-! ### Receivers that hold the same batches -/

/-- Two receivers hold the same batches as long as their worlds are alike, and the worlds stay
alike; how shipments end may differ. -/
structure Receiver.HoldsLike (receiver : Receiver σ) (other : Receiver τ) (like : σ → τ → Prop) :
    Prop where
  receive (batch : Batch) {v : σ} {w : τ} : like v w →
    ((receiver.receive batch v).1 = .held ↔ (other.receive batch w).1 = .held) ∧
      like (receiver.receive batch v).2 (other.receive batch w).2
  finish (batch : Batch) {v : σ} {w : τ} : like v w →
    like (receiver.finish batch v).2 (other.finish batch w).2

theorem Receiver.HoldsLike.outcome {receiver : Receiver σ} {other : Receiver τ}
    {like : σ → τ → Prop} (h : receiver.HoldsLike other like) (here : Bool) (batch : Batch) {v : σ}
    {w : τ} (hw : like v w) :
    (receiver.outcome here batch v).1.held? batch = (other.outcome here batch w).1.held? batch ∧
      like (receiver.outcome here batch v).2 (other.outcome here batch w).2 := by
  obtain ⟨held_iff, next⟩ := h.receive batch hw
  rcases hr : receiver.receive batch v with ⟨ending | _, v'⟩
  · rcases ho : other.receive batch w with ⟨ending' | _, w'⟩
    · rw [hr, ho] at next
      cases here <;> simp [Receiver.outcome, Receiver.atOnce, hr, ho, next, Reception.held?]
    · simp [hr, ho] at held_iff
  · rcases ho : other.receive batch w with ⟨ending' | _, w'⟩
    · simp [hr, ho] at held_iff
    · rw [hr, ho] at next
      cases here with
      | false => simp [Receiver.outcome, hr, ho, next, Reception.held?]
      | true =>
        -- with the caller a batch is not held, so its shipment ends at once
        have last := h.finish batch next
        simp [Receiver.outcome, Receiver.atOnce, hr, ho, last, Reception.held?]

/-- Two dispatchers with the same crew, which hold the same batches, and whose receivers will do
so. -/
structure Dispatcher.Twin (like : σ → τ → Prop) (d : Dispatcher σ) (e : Dispatcher τ) : Prop where
  limits_eq : d.limits = e.limits
  crew_eq : d.crew = e.crew
  holds : d.receiver.HoldsLike e.receiver like
  world : like d.world e.world

namespace Dispatcher.Twin

variable {like : σ → τ → Prop} {d : Dispatcher σ} {e : Dispatcher τ}

theorem place (h : Twin like d e) : d.place = e.place := by
  rw [Dispatcher.place, Dispatcher.place, h.crew_eq, h.limits_eq]

theorem placeBehind (h : Twin like d e) (first : Batch) :
    d.placeBehind first = e.placeBehind first := by
  rw [Dispatcher.placeBehind, Dispatcher.placeBehind, h.place, h.crew_eq, h.limits_eq]

/-- A batch goes the same way. -/
theorem submitTo (h : Twin like d e) (place : Submission) (batch : Batch) :
    (d.submitTo place batch).1 = (e.submitTo place batch).1 ∧
      Twin like (d.submitTo place batch).2.1 (e.submitTo place batch).2.1 := by
  cases he : batch.isEmpty with
  | true =>
    obtain ⟨there, next⟩ := d.submitTo_of_empty place he
    obtain ⟨there', next'⟩ := e.submitTo_of_empty place he
    rw [there, there', next, next']
    exact ⟨rfl, h.limits_eq, h.crew_eq, h.holds, h.world⟩
  | false =>
    obtain ⟨there, next⟩ := d.submitTo_of_full place he
    obtain ⟨there', next'⟩ := e.submitTo_of_full place he
    obtain ⟨held_eq, world⟩ := h.holds.outcome (place = .callerRan) batch h.world
    rw [there, there', next, next']
    refine ⟨rfl, h.limits_eq, ?_, h.holds, world⟩
    simp only [held_eq, h.crew_eq, h.limits_eq]

theorem releaseAt (h : Twin like d e) (index : Nat) :
    Twin like (d.releaseAt index).2.1 (e.releaseAt index).2.1 := by
  have crew_eq : (d.crew.releaseAt d.limits index).2 = (e.crew.releaseAt e.limits index).2 := by
    rw [h.crew_eq, h.limits_eq]
  cases hh : d.crew.held[index]? with
  | some batch =>
    rw [d.releaseAt_of_some hh, e.releaseAt_of_some (h.crew_eq ▸ hh)]
    exact ⟨h.limits_eq, crew_eq, h.holds, h.holds.finish batch h.world⟩
  | none =>
    rw [d.releaseAt_of_none hh, e.releaseAt_of_none (h.crew_eq ▸ hh)]
    exact ⟨h.limits_eq, crew_eq, h.holds, h.world⟩

theorem close (h : Twin like d e) : Twin like d.close e.close where
  limits_eq := h.limits_eq
  crew_eq := by rw [Dispatcher.close, Dispatcher.close, h.crew_eq, h.limits_eq]
  holds := h.holds
  world := h.world

end Dispatcher.Twin

/-! ### The same way for every batch -/

namespace Ledger

/-- The same happens to two ledgers, up to worlds that are alike.  A demand is met both times in
haste or not. -/
inductive Step.Like (like : σ → τ → Prop) : Step σ → Step τ → Prop where
  | meet (demand : Demand) (haste : Bool) : Like like (.meet demand haste) (.meet demand haste)
  | release (index : Nat) : Like like (.release index) (.release index)
  | stir {change : σ → σ} {change' : τ → τ} :
    (∀ v w, like v w → like (change v) (change' w)) → Like like (.stir change) (.stir change')

/-- The answers of each step, and the crew after it. -/
def courses : Ledger σ → List (Step σ) → List (List FlushAnswer × Crew Batch) :=
  along fun l step => [((l.advance step).1, (l.advance step).2.dispatcher.crew)]

/-- Two ledgers that differ only in how shipments end: the levels are the same, and the dispatchers
send every batch the same way. -/
structure Twin (like : σ → τ → Prop) (l : Ledger σ) (m : Ledger τ) : Prop
    extends SameDesk l m where
  levels_eq : l.levels = m.levels
  dispatcher : l.dispatcher.Twin like m.dispatcher

namespace Twin

variable {like : σ → τ → Prop} {l : Ledger σ} {m : Ledger τ}

theorem flushTo (h : Twin like l m) (place : Submission) (k : Kind) :
    (l.flushTo place k).1 = (m.flushTo place k).1 ∧
      Twin like (l.flushTo place k).2 (m.flushTo place k).2 := by
  have desk := (h.toSameDesk.flushTo place place k).2
  have same := h.buffers_eq
  have levels_eq := h.levels_eq
  by_cases nothing : (m.buffers.get k).toList = []
  · rw [flushTo_of_nil place nothing, flushTo_of_nil place (same ▸ nothing)]
    exact ⟨rfl, h⟩
  cases taken : m.accepts k (m.buffers.get k).toList with
  | true =>
    rw [flushTo_of_accepts place nothing taken, flushTo_of_accepts place (same ▸ nothing)
      (h.accepts_eq k ▸ same ▸ taken)] at desk ⊢
    obtain ⟨there, dispatcher⟩ :=
      h.dispatcher.submitTo place (m.batch k (m.buffers.get k).toList)
    refine ⟨?_, desk, levels_eq, ?_⟩
    · simp only [reportOf, cleared, batch, same, levels_eq] at there ⊢
      rw [there]
    · simp only [posted, cleared, batch, same, levels_eq] at dispatcher ⊢
      exact dispatcher
  | false =>
    rw [flushTo_of_refused place nothing taken, flushTo_of_refused place (same ▸ nothing)
      (h.accepts_eq k ▸ same ▸ taken)] at desk ⊢
    exact ⟨rfl, desk, levels_eq, h.dispatcher⟩

theorem flush (h : Twin like l m) (k : Kind) :
    (l.flush k).1 = (m.flush k).1 ∧ Twin like (l.flush k).2 (m.flush k).2 := by
  rw [Ledger.flush, Ledger.flush, h.dispatcher.place]
  exact h.flushTo _ k

theorem secondPlace (h : Twin like l m) (haste : Bool) :
    l.secondPlace haste = m.secondPlace haste := by
  cases haste with
  | false => exact (h.flush .runner).2.dispatcher.place
  | true =>
    show l.placeBehind .runner = m.placeBehind .runner
    have outgoing_eq : l.outgoing .runner = m.outgoing .runner :=
      outgoing_congr (by rw [h.buffers_eq]) (by rw [h.books_eq]) (by rw [h.levels_eq])
    rw [placeBehind, placeBehind, outgoing_eq]
    cases m.outgoing .runner with
    | none => exact h.dispatcher.place
    | some batch => exact h.dispatcher.placeBehind batch

theorem close (h : Twin like l m) : Twin like l.close m.close :=
  ⟨⟨h.books_eq, h.buffers_eq⟩, h.levels_eq, h.dispatcher.close⟩

theorem flushBoth (h : Twin like l m) (haste : Bool) :
    (l.flushBoth haste).1 = (m.flushBoth haste).1 ∧
      Twin like (l.flushBoth haste).2 (m.flushBoth haste).2 := by
  obtain ⟨first, next⟩ := h.flush .runner
  obtain ⟨second, last⟩ := next.flushTo (m.secondPlace haste) .croner
  cases early : (m.flush .runner).1.unwinds with
  | true =>
    rw [flushBoth_of_unwound haste (first ▸ early), flushBoth_of_unwound haste early, first]
    exact ⟨rfl, next⟩
  | false =>
    rw [flushBoth_of_returned haste (first ▸ early), flushBoth_of_returned haste early, first,
      h.secondPlace, second]
    exact ⟨rfl, last⟩

theorem advance (h : Twin like l m) {step : Step σ} {step' : Step τ} (hs : step.Like like step') :
    (l.advance step).1 = (m.advance step').1 ∧
      Twin like (l.advance step).2 (m.advance step').2 := by
  cases hs with
  | meet demand haste =>
    cases demand with
    | record k r => exact ⟨rfl, h.toSameDesk.record k r, h.levels_eq, h.dispatcher⟩
    | flush k =>
      obtain ⟨answer_eq, next⟩ := h.flush k
      exact ⟨congrArg ([·]) answer_eq, next⟩
    | shutdown =>
      obtain ⟨answers_eq, next⟩ := h.flushBoth haste
      rw [Ledger.advance, Ledger.advance, meet_shutdown_eq, meet_shutdown_eq, answers_eq]
      refine ⟨rfl, ?_⟩
      split
      · exact next
      · exact next.close
  | release index =>
    exact ⟨rfl, ⟨h.books_eq, h.buffers_eq⟩, h.levels_eq, h.dispatcher.releaseAt index⟩
  | stir stays =>
    exact ⟨rfl, ⟨h.books_eq, h.buffers_eq⟩, h.levels_eq, h.dispatcher.limits_eq,
      h.dispatcher.crew_eq, h.dispatcher.holds, stays _ _ h.dispatcher.world⟩

/-- Every batch goes the same way, and the crews do not differ after any step. -/
theorem courses (h : Twin like l m) {steps : List (Step σ)} {steps' : List (Step τ)}
    (hs : List.Forall₂ (Step.Like like) steps steps') : l.courses steps = m.courses steps' := by
  induction hs generalizing l m with
  | nil => rfl
  | cons now _ ih =>
    obtain ⟨answers_eq, next⟩ := h.advance now
    have now_eq := congrArg₂ Prod.mk answers_eq next.dispatcher.crew_eq
    exact congrArg₂ List.cons now_eq (ih next)

end Twin

end Ledger

/-- **Counting does not depend on shipping.**  Two ledgers start with the same books, and the same
demands are met in the same order.  Whatever their levels, crews and receivers are, and whatever
else happens, in haste or not: each time that a demand has been met, the same was counted, as many
records are buffered, the same flushes have unwound, and the reports say the same of the counting.
If the levels and the crews are the same too, and the receivers differ only in how shipments end,
every batch goes the same way, and the crews do not differ after any step. -/
theorem counting_apart_from_shipping (books : Books) (limits limits' : Limits)
    (levels levels' : PerKind fun _ => Lookup) (receiver : Receiver σ) (receiver' : Receiver τ)
    (world : σ) (world' : τ) (steps : List (Ledger.Step σ)) (steps' : List (Ledger.Step τ))
    (same : steps.filterMap Ledger.Step.demand? = steps'.filterMap Ledger.Step.demand?) :
    let l := Ledger.opened limits levels books receiver world
    let m := Ledger.opened limits' levels' books receiver' world'
    (l.sights steps).map Ledger.Sight.counted = (m.sights steps').map Ledger.Sight.counted ∧
    (l.after steps).books = (m.after steps').books ∧
    (∀ k, (l.after steps).pending k = (m.after steps').pending k) ∧
    (limits = limits' → levels = levels' →
      ∀ like : σ → τ → Prop, receiver.HoldsLike receiver' like → like world world' →
        List.Forall₂ (Ledger.Step.Like like) steps steps' →
          l.courses steps = m.courses steps') := by
  intro l m
  have desk : Ledger.SameDesk l m := ⟨rfl, rfl⟩
  obtain ⟨sights_eq, last⟩ := desk.run_of_bare_eq same
  refine ⟨sights_eq, last.books_eq, fun k => ?_, ?_⟩
  · rw [Ledger.pending, Ledger.pending, last.buffers_eq]
  · rintro rfl rfl like holds alike steps_alike
    have twin : l.Twin like m := ⟨desk, rfl, rfl, rfl, holds, alike⟩
    exact twin.courses steps_alike

/-- Scripts are told to hold the same batches. -/
def Script.HoldsWith (v w : Script) : Prop :=
  v.mode = .hold ↔ w.mode = .hold

theorem Script.receiver_holdsLike (name name' : String) :
    (receiver name).HoldsLike (receiver name') HoldsWith where
  receive batch v w alike := by
    obtain ⟨mode, kept⟩ := v
    obtain ⟨mode', kept'⟩ := w
    cases mode <;> cases mode' <;> simp_all [receiver, HoldsWith, keepBatch]
  finish batch v w alike := alike

/-- Two tasks that succeed, the second of which belongs to a batch that is held for a while. -/
def Ledger.Step.day (told : Script.Mode) : List (Ledger.Step Script) :=
  [.meet (.record .runner (Runner.ran .epoch .fiveLater)), .stir fun s => { s with mode := told },
    .meet (.flush .runner), .stir fun s => { s with mode := .hold },
    .meet (.record .runner (Runner.ran .epoch .fiveLater)), .meet (.flush .runner), .release 0,
    .meet .shutdown]

/-- A receiver keeps the first batch, or crashes. -/
theorem counting_of_crash :
    let l := Ledger.opened (.ofWish 0 2 none) ⟨fun _ => none, fun _ => none⟩
      (.separate ⟨.empty, .empty⟩) (Script.receiver "sink") { mode := .keep }
    (l.sights (Ledger.Step.day .keep)).map Ledger.Sight.counted =
      (l.sights (Ledger.Step.day .crash)).map Ledger.Sight.counted ∧
    l.courses (Ledger.Step.day .keep) = l.courses (Ledger.Step.day .crash) := by
  intro l
  obtain ⟨sights_eq, -, -, courses_eq⟩ := counting_apart_from_shipping
    (.separate ⟨.empty, .empty⟩) (.ofWish 0 2 none) (.ofWish 0 2 none)
    ⟨fun _ => none, fun _ => none⟩ ⟨fun _ => none, fun _ => none⟩ (Script.receiver "sink")
    (Script.receiver "sink") { mode := .keep } { mode := .keep } (Ledger.Step.day .keep)
    (Ledger.Step.day .crash) rfl
  refine ⟨sights_eq, courses_eq rfl rfl Script.HoldsWith (Script.receiver_holdsLike ..) Iff.rfl ?_⟩
  have crashes : ∀ v w : Script, v.HoldsWith w →
      Script.HoldsWith { v with mode := .keep } { w with mode := .crash } :=
    fun v w _ => iff_of_false Script.Mode.noConfusion Script.Mode.noConfusion
  have holds : ∀ v w : Script, v.HoldsWith w →
      Script.HoldsWith { v with mode := .hold } { w with mode := .hold } :=
    fun v w _ => Iff.rfl
  exact .cons (.meet _ _) (.cons (.stir crashes) (.cons (.meet _ _) (.cons (.stir holds)
    (.cons (.meet _ _) (.cons (.meet _ _) (.cons (.release 0) (.cons (.meet _ _) .nil)))))))

end TaskLedger
