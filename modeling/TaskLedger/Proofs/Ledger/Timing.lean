import Mathlib
import TaskLedger.Proofs.Ledger.Posting
import TaskLedger.Proofs.Outcome.Key
import TaskLedger.Proofs.Tally.Entries

/-!
# When records are flushed

The records of a kind come one after another, and are flushed in between at any times.  However
that is done, once the last record is flushed the store of the kind holds what a single batch of all
records would have written.

* `Aggregation.fits_written`: what a batch of modest records writes fits into 64 bits;
* `Aggregation.ofRecords_normal`: records are counted as they were before they were buffered;
* `Ledger.play` records and flushes; `Ledger.Caught` says what the store holds meanwhile, and
  `Ledger.Caught.flush` that no flush unwinds;
* `total_play`: the totals in the end.
-/

namespace TaskLedger

variable {σ : Type} {k : Kind}

/-! ### Records as they are buffered -/

theorem zipWith_congr_left {α β γ : Type} {f g : α → β → γ} {as : List α} (bs : List β)
    (h : ∀ a ∈ as, f a = g a) : List.zipWith f as bs = List.zipWith g as bs := by
  rw [← List.map_uncurry_zip_eq_zipWith, ← List.map_uncurry_zip_eq_zipWith]
  refine List.map_congr_left fun entry he => ?_
  exact congrFun (h entry.1 (List.of_mem_zip he).1) entry.2

theorem Bucket.add_normal (b : Bucket) (r : Record k) :
    b.add (.of k) r.normal = b.add (.of k) r := by
  have counts : ∀ count ∈ (Scheme.of k).counts, count.counts r.normal = count.counts r := by
    cases k <;> simp [Scheme.of, Scheme.croner, Record.normal]
  have phases : ∀ phase ∈ (Scheme.of k).phases, phase.millis r.normal = phase.millis r := by
    cases k <;> simp [Scheme.of, Scheme.croner, Record.normal, Phase.millis]
  have next : (Scheme.of k).next r.normal = (Scheme.of k).next r := by
    cases k <;> rfl
  rw [add, add, next]
  congr 1
  · refine zipWith_congr_left _ fun count hc => ?_
    rw [counts count hc]
  · refine zipWith_congr_left _ fun phase hp => ?_
    rw [phases phase hp]

/-- Records are counted as they were before they were buffered. -/
theorem Aggregation.ofRecords_normal (records : List (Record k)) :
    ofRecords (records.map Record.normal) = ofRecords records := by
  rw [ofRecords, List.foldl_map, ofRecords]
  congr 1
  funext a r
  rw [observe, observe, Record.key_normal, Bucket.add_normal]

/-! ### Modest records -/

/-- A counter of some records that are not too many fits into 64 bits. -/
theorem Aggregation.fits_value? {records : List (Record k)} (few : records.length < 2 ^ 63)
    (modest : Modest records) (category : String) {counter : String}
    (h : counter ∈ (Scheme.of k).names) :
    Signed64.Fits (((ofRecords records).value? category counter).getD 0) := by
  obtain ⟨slot, found⟩ := List.getElem?_of_mem h
  rw [value?_ofRecords modest category found]
  cases ha : ((Scheme.of k).amounts (records.filter (·.key = category)))[slot]? with
  | none => exact ⟨by decide, by decide⟩
  | some amount =>
    rcases List.mem_append.1 (List.mem_of_getElem? ha) with of_count | of_phase
    · obtain ⟨count, -, rfl⟩ := List.mem_map.1 of_count
      have le : (records.filter (·.key = category)).countP count.counts ≤ records.length :=
        List.countP_le_length.trans (List.length_filter_le _ _)
      show Signed64.Fits (_ : Int)
      simp only [Option.getD_some, Signed64.Fits, Signed64.least, Signed64.greatest]
      omega
    · obtain ⟨phase, hp, rfl⟩ := List.mem_map.1 of_phase
      exact (modest category).fits hp

/-- What a batch of modest records writes fits into 64 bits. -/
theorem Aggregation.fits_written {records : List (Record k)} (few : records.length < 2 ^ 63)
    (modest : Modest records) (name : String) :
    Signed64.Fits (written (ofRecords records).entries name) := by
  by_cases meant : ∃ category, ∃ counter ∈ (Scheme.of k).names, counterName category counter = name
  · obtain ⟨category, counter, named, rfl⟩ := meant
    rw [written_counterName _ named]
    exact fits_value? few modest category named
  · push Not at meant
    rw [written_of_no_counter _ meant]
    exact Signed64.fits_zero

/-! ### Flushing in between -/

namespace Ledger

/-- Records in order, and flushes wherever there is no record. -/
def play (l : Ledger σ) (k : Kind) (steps : List (Option (Record k))) : Ledger σ :=
  steps.foldl (fun l step => match step with
    | some r => l.record k r
    | none => (l.flush k).2) l

theorem play_concat_none (l : Ledger σ) (k : Kind) (steps : List (Option (Record k))) :
    l.play k (steps ++ [none]) = ((l.play k steps).flush k).2 := by
  rw [play, List.foldl_append]
  rfl

/-- Some records of a kind were flushed, and others are buffered; the store of the kind holds what
one batch of the former writes. -/
structure Caught (k : Kind) (flushed buffered : List (Record k)) (l : Ledger σ) : Prop where
  buffer_eq : (l.buffers.get k).toList = buffered.map Record.normal
  total_eq (name : String) :
    (l.books.of k).total name = written (Aggregation.ofRecords flushed).entries name

variable {l : Ledger σ} {flushed buffered : List (Record k)}

theorem Caught.record (h : Caught k flushed buffered l) (r : Record k) :
    Caught k flushed (buffered ++ [r]) (l.record k r) where
  buffer_eq := by
    simp [Ledger.record, Ledger.observe, h.buffer_eq]
  total_eq := h.total_eq

/-- The store takes what is buffered. -/
theorem Caught.accepts (h : Caught k flushed buffered l)
    (few : (flushed ++ buffered).length < 2 ^ 63)
    (modest : Aggregation.Modest (flushed ++ buffered)) :
    l.accepts k (l.buffers.get k).toList = true := by
  have fits : (l.books.of k).Fits := by
    intro name
    rw [h.total_eq]
    refine Aggregation.fits_written ?_ (modest.sublist (List.sublist_append_left _ _)) name
    rw [List.length_append] at few
    omega
  rw [h.buffer_eq, Ledger.accepts, Aggregation.ofRecords_normal, Aggregation.takes_iff fits]
  intro name
  rw [h.total_eq, ← Aggregation.written_ofRecords_append modest]
  exact Aggregation.fits_written few modest name

/-- A flush catches up with what is buffered, and does not unwind. -/
theorem Caught.flush (h : Caught k flushed buffered l)
    (few : (flushed ++ buffered).length < 2 ^ 63)
    (modest : Aggregation.Modest (flushed ++ buffered)) :
    (l.flush k).1 ≠ .unwound ∧ Caught k (flushed ++ buffered) [] (l.flush k).2 := by
  have all := h.accepts few modest
  by_cases present : (l.buffers.get k).toList = []
  · rw [Ledger.flush, flushTo_of_nil _ present]
    rw [h.buffer_eq, List.map_eq_nil_iff] at present
    subst present
    rw [List.append_nil]
    exact ⟨FlushAnswer.noConfusion, h⟩
  · rw [Ledger.flush, flushTo_of_accepts _ present all]
    refine ⟨FlushAnswer.noConfusion, ?_, fun name => ?_⟩
    · show ((l.buffers.set k Buffer.empty).get k).toList = []
      rw [PerKind.get_set_self]
      rfl
    · show ((l.books.update k _).of k).total name = _
      rw [Books.of_update_self, Aggregation.emit, Store.total_addAll_of_takes all, h.total_eq,
        h.buffer_eq, Aggregation.ofRecords_normal, Aggregation.written_ofRecords_append modest]

/-- Whatever is recorded and flushed, the store has caught up with a part of it, and the rest is
buffered. -/
theorem Caught.play (h : Caught k flushed buffered l) (steps : List (Option (Record k)))
    (few : (flushed ++ buffered ++ steps.reduceOption).length < 2 ^ 63)
    (modest : Aggregation.Modest (flushed ++ buffered ++ steps.reduceOption)) :
    ∃ flushed' buffered', flushed' ++ buffered' = flushed ++ buffered ++ steps.reduceOption ∧
      Caught k flushed' buffered' (l.play k steps) := by
  induction steps generalizing l flushed buffered with
  | nil => exact ⟨flushed, buffered, (List.append_nil _).symm, h⟩
  | cons step steps ih =>
    cases step with
    | some r =>
      rw [List.reduceOption_cons_of_some] at few modest ⊢
      have next := ih (h.record r) (by simpa using few) (by simpa using modest)
      simpa [Ledger.play] using next
    | none =>
      rw [List.reduceOption_cons_of_none] at few modest ⊢
      have part := List.sublist_append_left (flushed ++ buffered) steps.reduceOption
      have now := (h.flush (part.length_le.trans_lt few) (modest.sublist part)).2
      have next := ih now (by simpa using few) (by simpa using modest)
      simpa [Ledger.play] using next

end Ledger

/-- **When records are flushed makes no difference to the totals.**  However records of a kind and
flushes follow each other, in the end, when the last record is flushed, there is the same total
under every name as when all records are counted as one batch; under the name of a counter of a
category it is the value of that counter.  The records are fewer than `2 ^ 63`, and the milliseconds
of every phase in every category stay in range; then no flush on the way unwinds. -/
theorem total_play (l : Ledger σ) (k : Kind) (steps : List (Option (Record k)))
    (buffer : (l.buffers.get k).toList = []) (store : l.books.of k = .empty)
    (few : steps.reduceOption.length < 2 ^ 63) (modest : Aggregation.Modest steps.reduceOption) :
    (∀ name, ((l.play k (steps ++ [none])).books.of k).total name =
      ((Aggregation.ofRecords steps.reduceOption).emit .empty).total name) ∧
    (∀ category, ∀ counter ∈ (Scheme.of k).names,
      ((l.play k (steps ++ [none])).books.of k).total (Aggregation.counterName category counter) =
        ((Aggregation.ofRecords steps.reduceOption).value? category counter).getD 0) ∧
    ∀ front, front ++ [none] <+: steps ++ [none] → ((l.play k front).flush k).1 ≠ .unwound := by
  have opening : Ledger.Caught k [] [] l := by
    refine ⟨buffer, fun name => ?_⟩
    rw [store, Store.total_empty]
    rfl
  have caught (front : List (Option (Record k))) (part : front <+: steps) :
      ((l.play k front).flush k).1 ≠ .unwound ∧
        Ledger.Caught k front.reduceOption [] ((l.play k front).flush k).2 := by
    have sub := part.sublist.filterMap id
    have few' := sub.length_le.trans_lt few
    have modest' := modest.sublist sub
    obtain ⟨flushed, buffered, all, caught⟩ := opening.play front few' modest'
    rw [List.append_nil, List.nil_append] at all
    rw [← all]
    exact caught.flush (by rw [all]; exact few') (by rw [all]; exact modest')
  have total_eq := (caught steps List.prefix_rfl).2.total_eq
  rw [← Ledger.play_concat_none] at total_eq
  refine ⟨fun name => ?_, fun category counter hc => ?_, fun front part => ?_⟩
  · have all : Store.empty.takes (Aggregation.ofRecords steps.reduceOption).entries = true := by
      rw [Aggregation.takes_iff Store.fits_empty]
      intro name
      rw [Store.total_empty, zero_add]
      exact Aggregation.fits_written few modest name
    rw [total_eq, Aggregation.emit, Store.total_addAll_of_takes all, Store.total_empty, zero_add]
  · rw [total_eq, Aggregation.written_counterName _ hc]
  · refine (caught front ?_).1
    rcases List.prefix_concat_iff.1 part with whole | inside
    · rw [List.append_cancel_right whole]
    · exact (List.prefix_append front [none]).trans inside

/-- A task that ran from one instant to another. -/
def Runner.ran (start finish : Instant) : Record .runner :=
  show Runner.Outcome from
    { taskClass := "job", state := .success, runAt := some start, finishedAt := some finish }

/-- Five seconds after midnight. -/
def Instant.fiveLater : Instant :=
  { epoch with second := 5, second_lt := by decide, nano_lt := by decide }

/-- A ledger that ships everything, to a receiver that takes everything. -/
def Ledger.simple : Ledger Unit :=
  opened (.ofWish 0 1 none) ⟨fun _ => none, fun _ => none⟩ (.separate ⟨.empty, .empty⟩)
    ⟨"sink", fun _ world => (.ended .stored, world), fun _ world => (.stored, world)⟩ ()

/-- A clock was set back between two flushes: what is written cancels out, where a single batch
writes nothing. -/
theorem total_play_of_skew :
    ((Ledger.simple.play .runner ([some (Runner.ran .epoch .fiveLater), none,
      some (Runner.ran .fiveLater .epoch)] ++ [none])).books.of .runner).total
        (Aggregation.counterName "job" "timeRun") = 0 := by
  have in_range : (Scheme.of .runner).Modest
      [Runner.ran .epoch .fiveLater, Runner.ran .fiveLater .epoch] := by
    unfold Scheme.Modest
    decide
  have modest : Aggregation.Modest [Runner.ran .epoch .fiveLater, Runner.ran .fiveLater .epoch] :=
    fun category => in_range.sublist List.filter_sublist
  obtain ⟨-, counter_eq, -⟩ := total_play Ledger.simple .runner
    [some (Runner.ran .epoch .fiveLater), none, some (Runner.ran .fiveLater .epoch)] rfl rfl
    (by decide) modest
  rw [counter_eq "job" "timeRun" (by decide)]
  decide

end TaskLedger
