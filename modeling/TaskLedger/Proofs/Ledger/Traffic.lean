import Mathlib
import TaskLedger.Proofs.Dispatch.Accounts
import TaskLedger.Proofs.Ledger.Posting
import TaskLedger.Proofs.Selection

/-!
# Traffic in a ledger

Any number of producers record, while any number of *clerks* flush.  A clerk who flushes detaches
the records of a kind in one step and posts them in a later one; between the two anybody may move.
A clerk who shuts the ledger down flushes both kinds, then closes the crew.  Where the store refuses
a counter the clerk unwinds: the records that he carries are spilled, and he does nothing else.

* `Traffic.step` makes a move, and notes what is detached, posted, spilled and done to the
  dispatcher;
* `Traffic.Kept`: what was detached, and what is still buffered, is what was recorded; what was
  posted or spilled or is carried by a clerk is what was detached; the dispatcher was given what was
  posted;
* `Traffic.refused_of_spilled`: what was spilled was refused by the store;
* `flush_eq` and `shutdown_eq`: a clerk whom nobody disturbs does what `Ledger.flush` and
  `Ledger.shutdown` do;
* `nothing_lost` puts this together.
-/

namespace TaskLedger

open scoped List

variable {σ : Type}

/-! ### The moves -/

/-- What a clerk has to do: flush a kind, or close the crew. -/
inductive Errand where
  | flush (k : Kind)
  | close
  deriving DecidableEq

/-- The errands of a clerk who shuts the ledger down. -/
def Errand.shutdown : List Errand :=
  [.flush .runner, .flush .croner, .close]

/-- Somebody who flushes, with the records that he has detached and not posted, and what he has to
do after that, in order. -/
structure Clerk where
  carried : Option (Σ k, List (Record k)) := none
  errands : List Errand

/-- What is noted of a move: records were detached, posted or spilled, or something else was done to
the dispatcher. -/
inductive Note (σ : Type) where
  | detached (k : Kind) (records : List (Record k))
  | posted (k : Kind) (records : List (Record k))
  | spilled (k : Kind) (records : List (Record k))
  | other (deed : Deed σ)

/-- A ledger while people use it: those who flush, and what was noted, in order. -/
structure Traffic (σ : Type) where
  ledger : Ledger σ
  clerks : List Clerk := []
  notes : List (Note σ) := []

/-- A move of somebody.  A producer records; somebody comes to flush or to shut the ledger down; a
clerk does the next thing that he has to do; a batch is released, given by its place among those
that are held; or the world of the receiver changes by itself. -/
inductive Traffic.Move (σ : Type) where
  | record (k : Kind) (r : Record k)
  | arrive (errands : List Errand)
  | proceed (clerk : Nat)
  | release (index : Nat)
  | stir (change : σ → σ)

/-- Lets a batch go, given by its place among those that are held. -/
def Ledger.releaseAt (l : Ledger σ) (index : Nat) : Ledger σ :=
  let (_, dispatcher, seen) := l.dispatcher.releaseAt index
  { l with dispatcher }.observe seen

namespace Traffic

/-- A clerk does the next thing that he has to do. -/
def proceed (t : Traffic σ) (index : Nat) : Traffic σ :=
  match t.clerks[index]? with
  | none => t
  | some ⟨some ⟨k, records⟩, errands⟩ =>
    let (answer, ledger) := t.ledger.post k records
    if answer.unwinds then
      { ledger
        clerks := t.clerks.set index ⟨none, []⟩
        notes := t.notes ++ [.spilled k records] }
    else
      { ledger
        clerks := t.clerks.set index ⟨none, errands⟩
        notes := t.notes ++ [.posted k records] }
  | some ⟨none, []⟩ => t
  | some ⟨none, .flush k :: errands⟩ =>
    match t.ledger.detach k with
    | (none, _) => { t with clerks := t.clerks.set index ⟨none, errands⟩ }
    | (some records, ledger) =>
      { ledger
        clerks := t.clerks.set index ⟨some ⟨k, records⟩, errands⟩
        notes := t.notes ++ [.detached k records] }
  | some ⟨none, .close :: errands⟩ =>
    { ledger := t.ledger.close
      clerks := t.clerks.set index ⟨none, errands⟩
      notes := t.notes ++ [.other .close] }

/-- Makes a move. -/
def step (t : Traffic σ) : Move σ → Traffic σ
  | .record k r => { t with ledger := t.ledger.record k r }
  | .arrive errands => { t with clerks := t.clerks ++ [{ errands }] }
  | .proceed clerk => t.proceed clerk
  | .release index =>
    { t with
      ledger := t.ledger.releaseAt index
      notes := t.notes ++ [.other (.release index)] }
  | .stir change =>
    { t with
      ledger := { t.ledger with
        dispatcher := { t.ledger.dispatcher with world := change t.ledger.dispatcher.world } }
      notes := t.notes ++ [.other (.stir change)] }

/-- Makes moves in order. -/
def run (t : Traffic σ) (moves : List (Move σ)) : Traffic σ :=
  moves.foldl step t

@[simp] theorem run_nil (t : Traffic σ) : t.run [] = t := rfl

@[simp] theorem run_cons (t : Traffic σ) (move : Move σ) (moves : List (Move σ)) :
    t.run (move :: moves) = (t.step move).run moves := rfl

end Traffic

/-! ### What was recorded, detached, carried and posted -/

/-- Something that belongs to a kind, if it is the given one. -/
def Kind.only? {α : Kind → Type} (k : Kind) {j : Kind} (a : α j) : Option (α k) :=
  if h : j = k then some (h ▸ a) else none

@[simp] theorem Kind.only?_self {α : Kind → Type} (k : Kind) (a : α k) :
    k.only? a = some a :=
  dif_pos rfl

theorem Kind.only?_of_ne {α : Kind → Type} {j k : Kind} (h : j ≠ k) (a : α j) :
    k.only? a = none :=
  dif_neg h

/-- The record of a kind that is recorded. -/
def Traffic.Move.record? (k : Kind) : Traffic.Move σ → Option (Record k)
  | .record _ r => k.only? r
  | _ => none

/-- The records of a kind that a clerk carries. -/
def Clerk.carried? (k : Kind) (clerk : Clerk) : Option (List (Record k)) :=
  clerk.carried.bind fun records => k.only? (α := fun k => List (Record k)) records.2

namespace Note

/-- The records of a kind that were detached. -/
def detached? (k : Kind) : Note σ → Option (List (Record k))
  | .detached _ records => k.only? (α := fun k => List (Record k)) records
  | _ => none

/-- The records of a kind that were posted. -/
def posted? (k : Kind) : Note σ → Option (List (Record k))
  | .posted _ records => k.only? (α := fun k => List (Record k)) records
  | _ => none

/-- The records of a kind that were spilled. -/
def spilled? (k : Kind) : Note σ → Option (List (Record k))
  | .spilled _ records => k.only? (α := fun k => List (Record k)) records
  | _ => none

/-- The records of a kind that were posted or spilled. -/
def settled? (k : Kind) (note : Note σ) : Option (List (Record k)) :=
  (note.posted? k).or (note.spilled? k)

/-- What was done to the dispatcher.  Of the records that were posted those are submitted that are
asked for. -/
def deed? (levels : PerKind fun _ => Lookup) : Note σ → Option (Deed σ)
  | .detached _ _ => none
  | .spilled _ _ => none
  | .posted k records =>
    some (.submit ⟨k, records.filter fun r => (levels.get k).Asks r.taskClass⟩)
  | .other deed => some deed

theorem mem_spilled_concat {k : Kind} {records : List (Record k)} {notes : List (Note σ)}
    {note : Note σ} : records ∈ (notes ++ [note]).filterMap (spilled? k) ↔
      records ∈ notes.filterMap (spilled? k) ∨ note.spilled? k = some records := by
  rw [filterMap_concat_eq, List.mem_append, Option.mem_toList]

/-- A note that tells of nothing spilled adds nothing. -/
theorem spilled_of_concat {k : Kind} {records : List (Record k)} {notes : List (Note σ)}
    {note : Note σ} (quiet : note.spilled? k = none)
    (spilled : records ∈ (notes ++ [note]).filterMap (spilled? k)) :
    records ∈ notes.filterMap (spilled? k) := by
  rcases mem_spilled_concat.1 spilled with earlier | same
  · exact earlier
  · rw [quiet] at same
    cases same

theorem settled_perm (k : Kind) (notes : List (Note σ)) :
    notes.filterMap (settled? k) ~ notes.filterMap (posted? k) ++ notes.filterMap (spilled? k) := by
  induction notes with
  | nil => exact .refl _
  | cons note notes ih =>
    rw [filterMap_cons_eq, filterMap_cons_eq, filterMap_cons_eq]
    cases note with
    | posted j records =>
      show ((posted? k (.posted j records : Note σ)).or none).toList ++ _ ~ (_ ++ _) ++ ([] ++ _)
      rw [Option.or_none, List.append_assoc]
      exact ih.append_left _
    | spilled j records =>
      show (spilled? k (.spilled j records : Note σ)).toList ++ _ ~ ([] ++ _) ++ (_ ++ _)
      refine (ih.append_left _).trans ?_
      rw [← List.append_assoc, List.nil_append, ← List.append_assoc]
      exact List.perm_append_comm.append_right _
    | detached j records => exact ih
    | other deed => exact ih

end Note

/-! ### One move -/

namespace Traffic

/-- Nothing is lost: what was detached, and what is still buffered, is what was recorded, in order;
what was posted or spilled, and what clerks carry, is what was detached; the dispatcher was given
what was posted; and nobody changes the levels. -/
structure Kept (first : Dispatcher σ) (levels : PerKind fun _ => Lookup) (moves : List (Move σ))
    (t : Traffic σ) : Prop where
  buffered (k : Kind) : (t.notes.filterMap (Note.detached? k)).flatten ++
    (t.ledger.buffers.get k).toList = (moves.filterMap (Move.record? k)).map Record.normal
  carried (k : Kind) : t.notes.filterMap (Note.settled? k) ++
    t.clerks.filterMap (Clerk.carried? k) ~ t.notes.filterMap (Note.detached? k)
  levels_eq : t.ledger.levels = levels
  dispatcher_eq : t.ledger.dispatcher = first.run (t.notes.filterMap (Note.deed? levels))

variable {first : Dispatcher σ} {levels : PerKind fun _ => Lookup} {moves : List (Move σ)}
  {t : Traffic σ}

theorem kept_opened (limits : Limits) (levels : PerKind fun _ => Lookup) (books : Books)
    (receiver : Receiver σ) (world : σ) :
    Kept { limits, receiver, world } levels []
      { ledger := Ledger.opened limits levels books receiver world } where
  buffered k := by cases k <;> rfl
  carried k := List.Perm.refl _
  levels_eq := rfl
  dispatcher_eq := rfl

theorem Kept.record (h : Kept first levels moves t) (j : Kind) (r : Record j) :
    Kept first levels (moves ++ [.record j r]) { t with ledger := t.ledger.record j r } where
  buffered k := by
    have before := h.buffered k
    rw [filterMap_concat_eq, List.map_append, ← before, List.append_assoc]
    refine congrArg (_ ++ ·) ?_
    by_cases hj : j = k
    · subst hj
      simp [Ledger.record, Ledger.observe, Move.record?]
    · have same : (t.ledger.record j r).buffers.get k = t.ledger.buffers.get k :=
        PerKind.get_set_of_ne _ (Ne.symm hj) _
      simp [same, Move.record?, Kind.only?_of_ne hj]
  carried := h.carried
  levels_eq := h.levels_eq
  dispatcher_eq := h.dispatcher_eq

/-- Something is noted that detaches nothing. -/
theorem Kept.noted (h : Kept first levels moves t) {move : Move σ}
    (silent : ∀ k, move.record? k = none) {note : Note σ} {ledger : Ledger σ} {clerks : List Clerk}
    (stays : ∀ k, note.detached? k = none)
    (carried : ∀ k, t.clerks.filterMap (Clerk.carried? k) ~
      (note.settled? k).toList ++ clerks.filterMap (Clerk.carried? k))
    (buffers : ledger.buffers = t.ledger.buffers) (levels_eq : ledger.levels = t.ledger.levels)
    (dispatcher : ledger.dispatcher = t.ledger.dispatcher.run (note.deed? levels).toList) :
    Kept first levels (moves ++ [move]) { ledger, clerks, notes := t.notes ++ [note] } where
  buffered k := by
    rw [buffers, filterMap_concat_eq, filterMap_concat_eq, silent, stays, Option.toList_none,
      Option.toList_none, List.append_nil, List.append_nil]
    exact h.buffered k
  carried k := by
    rw [filterMap_concat_eq, filterMap_concat_eq, stays, Option.toList_none, List.append_nil,
      List.append_assoc]
    exact ((carried k).symm.append_left _).trans (h.carried k)
  levels_eq := levels_eq.trans h.levels_eq
  dispatcher_eq := by
    rw [dispatcher, h.dispatcher_eq, filterMap_concat_eq, Dispatcher.run_append]

/-- Clerks come, or change their minds. -/
theorem Kept.idle (h : Kept first levels moves t) {move : Move σ}
    (silent : ∀ k, move.record? k = none) {clerks : List Clerk}
    (carried : ∀ k, clerks.filterMap (Clerk.carried? k) ~ t.clerks.filterMap (Clerk.carried? k)) :
    Kept first levels (moves ++ [move]) { t with clerks } where
  buffered k := by
    rw [filterMap_concat_eq, silent, Option.toList_none, List.append_nil]
    exact h.buffered k
  carried k := ((carried k).append_left _).trans (h.carried k)
  levels_eq := h.levels_eq
  dispatcher_eq := h.dispatcher_eq

/-- Records are detached, and some clerk carries them. -/
theorem Kept.detach (h : Kept first levels moves t) {move : Move σ}
    (silent : ∀ k, move.record? k = none) {j : Kind} {records : List (Record j)}
    {ledger : Ledger σ} {clerks : List Clerk} (took : t.ledger.detach j = (some records, ledger))
    (carried : ∀ k, clerks.filterMap (Clerk.carried? k) ~
      ((Note.detached j records : Note σ).detached? k).toList ++
        t.clerks.filterMap (Clerk.carried? k)) :
    Kept first levels (moves ++ [move])
      { ledger, clerks, notes := t.notes ++ [.detached j records] } := by
  obtain ⟨rfl, rfl⟩ := Ledger.eq_of_detach took
  -- the whole buffer moves to the end of what was detached
  refine ⟨fun k => ?_, fun k => ?_, h.levels_eq, ?_⟩
  · rw [filterMap_concat_eq, filterMap_concat_eq, silent, Option.toList_none, List.append_nil,
      List.flatten_append, List.append_assoc, ← h.buffered k]
    refine congrArg (_ ++ ·) ?_
    by_cases hj : j = k
    · subst hj
      simp [Note.detached?]
    · simp [Note.detached?, Kind.only?_of_ne hj, PerKind.get_set_of_ne _ (Ne.symm hj)]
  · rw [filterMap_concat_eq, filterMap_concat_eq]
    show (_ ++ []) ++ _ ~ _
    rw [List.append_nil]
    refine ((carried k).append_left _).trans ?_
    rw [← List.append_assoc]
    refine (List.perm_append_comm.append_right _).trans ?_
    rw [List.append_assoc]
    exact List.perm_append_comm.trans ((h.carried k).append_right _)
  · rw [filterMap_concat_eq]
    show _ = first.run (_ ++ [])
    rw [List.append_nil]
    exact h.dispatcher_eq

/-- Records that a clerk carries are posted, or they are spilled and the clerk forgets what he has
to do. -/
theorem Kept.post (h : Kept first levels moves t) {move : Move σ}
    (silent : ∀ k, move.record? k = none) {j : Kind} {records : List (Record j)}
    (clerks : Bool → List Clerk)
    (carried : ∀ unwinds k, t.clerks.filterMap (Clerk.carried? k) ~
      (k.only? (α := fun k => List (Record k)) records).toList ++
        (clerks unwinds).filterMap (Clerk.carried? k)) :
    Kept first levels (moves ++ [move])
      (let (answer, ledger) := t.ledger.post j records
      if answer.unwinds then
        { ledger, clerks := clerks true, notes := t.notes ++ [.spilled j records] }
      else { ledger, clerks := clerks false, notes := t.notes ++ [.posted j records] }) := by
  cases taken : t.ledger.accepts j records with
  | false =>
    rw [Ledger.post, Ledger.postTo_of_refused _ taken]
    exact h.noted silent (fun _ => rfl) (carried true) rfl rfl rfl
  | true =>
    rw [Ledger.post, Ledger.postTo_of_accepts _ taken]
    have same (k : Kind) : (Note.posted j records : Note σ).settled? k =
        k.only? (α := fun k => List (Record k)) records :=
      Option.or_none
    refine h.noted silent (fun _ => rfl) (fun k => same k ▸ carried false k) rfl rfl ?_
    show (t.ledger.dispatcher.submit ⟨j, (t.ledger.levels.get j).select records⟩).2.1 =
      (t.ledger.dispatcher.submit ⟨j, records.filter fun r => (levels.get j).Asks r.taskClass⟩).2.1
    rw [Lookup.select_eq_filter, h.levels_eq]

/-- What clerks carry after one of them has taken a step. -/
theorem carried_set {clerks : List Clerk} {index : Nat} {clerk : Clerk}
    (found : clerks[index]? = some clerk) (next : Clerk) (k : Kind) :
    ∃ others : List (List (Record k)),
      clerks.filterMap (Clerk.carried? k) ~ (clerk.carried? k).toList ++ others ∧
      (clerks.set index next).filterMap (Clerk.carried? k) ~
        (next.carried? k).toList ++ others := by
  obtain ⟨inside, rfl⟩ := List.getElem?_eq_some_iff.1 found
  refine ⟨(clerks.eraseIdx index).filterMap (Clerk.carried? k), ?_, ?_⟩
  · rw [← filterMap_cons_eq]
    exact (List.getElem_cons_eraseIdx_perm inside).symm.filterMap _
  · rw [← filterMap_cons_eq]
    exact (List.set_perm_cons_eraseIdx inside next).filterMap _

/-- Whatever a clerk does next, nothing is lost. -/
theorem Kept.proceed (h : Kept first levels moves t) (index : Nat) :
    Kept first levels (moves ++ [.proceed index]) (t.proceed index) := by
  have silent : ∀ k, (Move.proceed index : Move σ).record? k = none := fun _ => rfl
  unfold Traffic.proceed
  split
  · exact h.idle silent fun _ => List.Perm.refl _
  · rename_i j records errands found
    refine h.post silent (fun unwinds => t.clerks.set index
      ⟨none, if unwinds then [] else errands⟩) fun unwinds k => ?_
    obtain ⟨others, before, after⟩ :=
      carried_set found ⟨none, if unwinds then [] else errands⟩ k
    exact before.trans (after.symm.append_left _)
  · exact h.idle silent fun _ => List.Perm.refl _
  · rename_i j errands found
    split
    · refine h.idle silent fun k => ?_
      obtain ⟨others, before, after⟩ := carried_set found ⟨none, errands⟩ k
      exact after.trans before.symm
    · rename_i records ledger took
      refine h.detach silent took fun k => ?_
      obtain ⟨others, before, after⟩ := carried_set found ⟨some ⟨j, records⟩, errands⟩ k
      exact after.trans (before.symm.append_left _)
  · rename_i errands found
    refine h.noted silent (fun _ => rfl) (fun k => ?_) rfl rfl rfl
    obtain ⟨others, before, after⟩ := carried_set found ⟨none, errands⟩ k
    exact before.trans after.symm

/-- Whatever anybody does, nothing is lost. -/
theorem Kept.step (h : Kept first levels moves t) (move : Move σ) :
    Kept first levels (moves ++ [move]) (t.step move) := by
  cases move with
  | record k r => exact h.record k r
  | arrive errands =>
    refine h.idle (fun _ => rfl) fun k => ?_
    rw [filterMap_concat_eq]
    exact List.Perm.of_eq (List.append_nil _)
  | proceed clerk => exact h.proceed clerk
  | release index =>
    exact h.noted (fun _ => rfl) (fun _ => rfl) (fun _ => .refl _) rfl rfl rfl
  | stir change =>
    exact h.noted (fun _ => rfl) (fun _ => rfl) (fun _ => .refl _) rfl rfl rfl

theorem Kept.run (h : Kept first levels moves t) (more : List (Move σ)) :
    Kept first levels (moves ++ more) (t.run more) := by
  induction more generalizing moves t with
  | nil => exact (List.append_nil moves).symm ▸ h
  | cons move more ih =>
    have next := ih (h.step move)
    rw [List.append_assoc] at next
    exact next

/-! ### A clerk whom nobody disturbs -/

theorem run_append (t : Traffic σ) (moves more : List (Move σ)) :
    t.run (moves ++ more) = (t.run moves).run more :=
  List.foldl_append

/-- A flush takes a step if there is no record, and two steps if there are some.  If it unwinds the
clerk has nothing else to do. -/
theorem exists_flush {t : Traffic σ} {clerks : List Clerk} {k : Kind} {errands : List Errand}
    (last : t.clerks = clerks ++ [⟨none, .flush k :: errands⟩]) :
    ∃ steps, (t.run (.replicate steps (.proceed clerks.length))).ledger = (t.ledger.flush k).2 ∧
      (t.run (.replicate steps (.proceed clerks.length))).clerks =
        clerks ++ [⟨none, if (t.ledger.flush k).1.unwinds then [] else errands⟩] := by
  have found : t.clerks[clerks.length]? = some ⟨none, .flush k :: errands⟩ := by
    rw [last, List.getElem?_concat_length]
  have set_eq : ∀ clerk, t.clerks.set clerks.length clerk = clerks ++ [clerk] := by
    intro clerk
    rw [last, List.set_append_right _ _ (Nat.le_refl _), Nat.sub_self]
    rfl
  rcases took : t.ledger.detach k with ⟨_ | records, ledger⟩
  · have still : t.ledger.flush k = (.nothing, t.ledger) := by
      rw [Ledger.flush_eq, took]
    rw [still]
    refine ⟨1, ?_, ?_⟩
    · simp [Traffic.step, Traffic.proceed, found, took]
    · simp [Traffic.step, Traffic.proceed, found, took, set_eq, FlushAnswer.unwinds]
  · have posts : t.ledger.flush k = ledger.post k records := by
      rw [Ledger.flush_eq, took]
    rw [posts]
    cases unwinds : (ledger.post k records).1.unwinds with
    | true =>
      refine ⟨2, ?_, ?_⟩
      · simp [Traffic.step, Traffic.proceed, found, took, set_eq, unwinds]
      · simp [Traffic.step, Traffic.proceed, found, took, set_eq, unwinds]
    | false =>
      refine ⟨2, ?_, ?_⟩
      · simp [Traffic.step, Traffic.proceed, found, took, set_eq, unwinds]
      · simp [Traffic.step, Traffic.proceed, found, took, set_eq, unwinds]

/-- A clerk whom nobody disturbs does what a flush does. -/
theorem flush_eq (t : Traffic σ) (k : Kind) :
    ∃ steps, (t.run (.arrive [.flush k] ::
      .replicate steps (.proceed t.clerks.length))).ledger = (t.ledger.flush k).2 := by
  obtain ⟨steps, ledger_eq, -⟩ := exists_flush (t := t.step (.arrive [.flush k])) rfl
  exact ⟨steps, ledger_eq⟩

/-- A clerk whom nobody disturbs does what a shutdown does. -/
theorem shutdown_eq (t : Traffic σ) :
    ∃ steps, (t.run (.arrive Errand.shutdown ::
      .replicate steps (.proceed t.clerks.length))).ledger = t.ledger.shutdown.2 := by
  obtain ⟨first, ledger_eq, last⟩ := exists_flush (t := t.step (.arrive Errand.shutdown)) rfl
  change (Traffic.run _ _).ledger = (t.ledger.flush .runner).2 at ledger_eq
  change (Traffic.run _ _).clerks = t.clerks ++ [⟨none, if (t.ledger.flush .runner).1.unwinds
    then [] else [.flush .croner, .close]⟩] at last
  rw [Ledger.shutdown_eq]
  cases early : (t.ledger.flush .runner).1.unwinds with
  | true =>
    refine ⟨first, ?_⟩
    rw [Ledger.flushBoth_of_unwound _ early, run_cons, ledger_eq]
    simp [early]
  | false =>
    rw [early] at last
    obtain ⟨second, ledger_eq', last'⟩ := exists_flush last
    rw [ledger_eq] at ledger_eq' last'
    rw [Ledger.flushBoth_of_returned _ early]
    have place_eq : t.ledger.secondPlace false = (t.ledger.flush .runner).2.dispatcher.place := rfl
    rw [place_eq, ← Ledger.flush]
    cases late : ((t.ledger.flush .runner).2.flush .croner).1.unwinds with
    | true =>
      refine ⟨first + second, ?_⟩
      rw [run_cons, ← List.replicate_append_replicate, run_append, ledger_eq']
      simp [early, late]
    | false =>
      refine ⟨first + (second + 1), ?_⟩
      rw [late] at last'
      rw [run_cons, ← List.replicate_append_replicate, List.replicate_succ', run_append, run_append]
      -- only the crew is left to be closed
      generalize Traffic.run _ (.replicate second _) = u at ledger_eq' last' ⊢
      have found : u.clerks[t.clerks.length]? = some ⟨none, [.close]⟩ := by
        rw [last', List.getElem?_concat_length]
        rfl
      have closed : (u.proceed t.clerks.length).ledger = u.ledger.close := by
        simp only [Traffic.proceed, found]
      show (u.proceed t.clerks.length).ledger = _
      rw [closed, ledger_eq']
      simp [early, late]

/-! ### What is spilled -/

/-- A clerk spills only what the store refuses. -/
theorem refused_of_proceed {t : Traffic σ} {index : Nat} {k : Kind} {records : List (Record k)}
    (spilled : records ∈ (t.proceed index).notes.filterMap (Note.spilled? k)) :
    records ∈ t.notes.filterMap (Note.spilled? k) ∨ t.ledger.accepts k records = false := by
  unfold Traffic.proceed at spilled
  rcases found : t.clerks[index]? with _ | ⟨_ | ⟨j, carried⟩, errands⟩
  · rw [found] at spilled
    exact .inl spilled
  · rw [found] at spilled
    rcases errands with _ | ⟨⟨j⟩ | _, errands⟩
    · exact .inl spilled
    · dsimp only at spilled
      rcases taken : t.ledger.detach j with ⟨_ | records, ledger⟩ <;> rw [taken] at spilled
      · exact .inl spilled
      · exact .inl (Note.spilled_of_concat rfl spilled)
    · exact .inl (Note.spilled_of_concat rfl spilled)
  · rw [found] at spilled
    dsimp only at spilled
    cases taken : t.ledger.accepts j carried with
    | true =>
      rw [Ledger.post, Ledger.postTo_of_accepts _ taken] at spilled
      exact .inl (Note.spilled_of_concat rfl spilled)
    | false =>
      rw [Ledger.post, Ledger.postTo_of_refused _ taken] at spilled
      refine (Note.mem_spilled_concat.1 spilled).imp_right fun same => ?_
      by_cases hj : j = k
      · subst hj
        rw [Note.spilled?, Kind.only?_self] at same
        exact Option.some.inj same ▸ taken
      · rw [Note.spilled?, Kind.only?_of_ne hj] at same
        cases same

/-- What was spilled was refused by the store when it was its turn. -/
theorem refused_of_spilled {t : Traffic σ} {moves : List (Move σ)} {k : Kind}
    {records : List (Record k)}
    (spilled : records ∈ (t.run moves).notes.filterMap (Note.spilled? k)) :
    records ∈ t.notes.filterMap (Note.spilled? k) ∨
      ∃ before, before <+: moves ∧ (t.run before).ledger.accepts k records = false := by
  induction moves using List.reverseRecOn with
  | nil => exact .inl spilled
  | append_singleton moves move ih =>
    -- the last move may have spilled them
    have last : records ∈ (t.run moves).notes.filterMap (Note.spilled? k) ∨
        (t.run moves).ledger.accepts k records = false := by
      rw [run_append, run_cons, run_nil] at spilled
      cases move with
      | record j r => exact .inl spilled
      | arrive errands => exact .inl spilled
      | proceed index => exact refused_of_proceed spilled
      | release index => exact .inl (Note.spilled_of_concat rfl spilled)
      | stir change => exact .inl (Note.spilled_of_concat rfl spilled)
    rcases last with earlier | refused
    · refine (ih earlier).imp_right ?_
      rintro ⟨before, front, refused⟩
      exact ⟨before, front.trans (List.prefix_append ..), refused⟩
    · exact .inr ⟨moves, List.prefix_append .., refused⟩

end Traffic

/-- **Nothing is lost on the way to the dispatcher.**  For either kind, what was detached followed
by what is still buffered is what was recorded, in order; every batch that was detached is posted
once or carried by a clerk, unless it was spilled because the store refused one of its counters.  Of
a batch that is posted the dispatcher is given the records that are asked for, in order, and it
passes these to its receiver unless there are none.  Clerks whom nobody disturbs do what a flush and
a shutdown do. -/
theorem nothing_lost (limits : Limits) (levels : PerKind fun _ => Lookup) (books : Books)
    (receiver : Receiver σ) (world : σ) (moves : List (Traffic.Move σ)) :
    let first : Traffic σ := { ledger := Ledger.opened limits levels books receiver world }
    let t := first.run moves
    let deeds := t.notes.filterMap (Note.deed? levels)
    (∀ k, (t.notes.filterMap (Note.detached? k)).flatten ++ (t.ledger.buffers.get k).toList =
      (moves.filterMap (Traffic.Move.record? k)).map Record.normal) ∧
    (∀ k, t.notes.filterMap (Note.posted? k) ++ t.notes.filterMap (Note.spilled? k) ++
      t.clerks.filterMap (Clerk.carried? k) ~ t.notes.filterMap (Note.detached? k)) ∧
    (∀ k, ∀ records ∈ t.notes.filterMap (Note.spilled? k), ∃ before, before <+: moves ∧
      (first.run before).ledger.accepts k records = false) ∧
    t.ledger.dispatcher = first.ledger.dispatcher.run deeds ∧
    (first.ledger.dispatcher.logOfRun {} deeds).received =
      (deeds.filterMap Deed.batch?).filter (fun batch => !batch.isEmpty) ∧
    (∀ k, ∃ steps, (t.run (.arrive [.flush k] ::
      .replicate steps (.proceed t.clerks.length))).ledger = (t.ledger.flush k).2) ∧
    ∃ steps, (t.run (.arrive Errand.shutdown ::
      .replicate steps (.proceed t.clerks.length))).ledger = t.ledger.shutdown.2 := by
  intro first t deeds
  have kept := (Traffic.kept_opened limits levels books receiver world).run moves
  have accounts := (Accounts.opening limits receiver world).run deeds
  refine ⟨kept.buffered, fun k => ?_, fun k records spilled => ?_, kept.dispatcher_eq,
    accounts.received_eq, t.flush_eq, t.shutdown_eq⟩
  · exact ((Note.settled_perm k t.notes).symm.append_right _).trans (kept.carried k)
  · exact (Traffic.refused_of_spilled spilled).resolve_left List.not_mem_nil

end TaskLedger
