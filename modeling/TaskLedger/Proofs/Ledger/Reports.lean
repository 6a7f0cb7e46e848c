import Mathlib
import TaskLedger.Proofs.Dispatch.Deeds
import TaskLedger.Proofs.Ledger.Timing
import TaskLedger.Proofs.Tally.Overflow

/-!
# What a flush reports

A flush without records leaves a ledger as it is.  Otherwise it takes all records of its kind, and
what its report says of them fits together, and fits what the flush does to the ledger, whatever
state the ledger is in and wherever the batch goes.  There is no report if some total leaves the 64
bits that a store has for it: then the flush unwinds.

* `Aggregation.size_ofRecords`: there are as many categories as different keys;
* `Books.calls`: how often something was written, and `Books.calls_update`;
* `Dispatcher.submitTo_eq_skipped_iff`: a batch is skipped exactly if it is empty;
* `Ledger.Reported`: a report fits the records and the ledger before and after the flush;
* `Ledger.Unwound`: what a flush that unwinds leaves behind;
* `Ledger.Flushed`: what a flush answers and leaves behind; `Ledger.flush_contract` says that every
  flush is like this, and `Ledger.flush_without_report` is one that unwinds.
-/

namespace TaskLedger

variable {σ : Type} {k : Kind}

/-! ### Categories -/

/-- There are as many categories as different keys. -/
theorem Aggregation.size_ofRecords (records : List (Record k)) :
    (ofRecords records).size = (records.map Record.key).dedup.length := by
  rw [← length_toList, ← List.length_map Prod.fst]
  refine ((List.perm_ext_iff_of_nodup (nodup_categories _) (List.nodup_dedup _)).2 ?_).length_eq
  intro category
  rw [List.mem_dedup, List.mem_map, List.mem_map, ← exists_get?_iff]
  constructor
  · rintro ⟨⟨category, b⟩, there, rfl⟩
    exact ⟨b, mem_toList.1 there⟩
  · rintro ⟨b, found⟩
    exact ⟨(category, b), mem_toList.2 found, rfl⟩

/-- Every record belongs to a category. -/
theorem Aggregation.size_pos {records : List (Record k)} (present : records ≠ []) :
    0 < (ofRecords records).size := by
  obtain ⟨r, hr⟩ := List.exists_mem_of_ne_nil _ present
  rw [size_ofRecords]
  exact List.length_pos_of_mem (List.mem_dedup.2 (List.mem_map_of_mem hr))

/-- The number of counters of a category. -/
def Kind.counters : Kind → Nat
  | .runner => 10
  | .croner => 8

theorem Scheme.length_names (k : Kind) : (of k).names.length = k.counters := by
  cases k <;> rfl

/-! ### Calls -/

namespace Books

/-- How often something was written to any of the stores. -/
def calls : Books → Nat
  | .separate stores => stores.runner.calls + stores.croner.calls
  | .shared store => store.calls

theorem calls_update {b : Books} {k : Kind} {f : Store → Store} {n : Nat}
    (more : (f (b.of k)).calls = (b.of k).calls + n) : (b.update k f).calls = b.calls + n := by
  cases b with
  | separate stores =>
    cases k with
    | runner =>
      show (f stores.runner).calls + stores.croner.calls = _
      rw [show (f stores.runner).calls = stores.runner.calls + n from more, calls,
        Nat.add_right_comm]
    | croner =>
      show stores.runner.calls + (f stores.croner).calls = _
      rw [show (f stores.croner).calls = stores.croner.calls + n from more, calls, Nat.add_assoc]
  | shared store => exact more

/-- Only the store of the kind is updated. -/
theorem update_congr {b : Books} {k : Kind} {f g : Store → Store} (same : f (b.of k) = g (b.of k)) :
    b.update k f = b.update k g := by
  cases b with
  | separate stores =>
    show separate (stores.set k (f (stores.get k))) = separate (stores.set k (g (stores.get k)))
    rw [show f (stores.get k) = g (stores.get k) from same]
  | shared store => exact congrArg shared same

end Books

/-! ### Batches -/

/-- A batch that goes anywhere is skipped exactly if it is empty. -/
theorem Dispatcher.submitTo_eq_skipped_iff (d : Dispatcher σ) {place : Submission}
    (somewhere : place ≠ .skipped) (batch : Batch) :
    (d.submitTo place batch).1 = .skipped ↔ batch.size = 0 := by
  rw [← Batch.isEmpty_iff_size]
  cases empty : batch.isEmpty with
  | true => exact iff_of_true (submitTo_of_empty d place empty).1 rfl
  | false =>
    rw [(submitTo_of_full d place empty).1]
    exact iff_of_false somewhere Bool.false_ne_true

namespace Ledger

/-- No more records are selected than there are. -/
theorem size_batch_le (l : Ledger σ) (records : List (Record k)) :
    (l.batch k records).size ≤ records.length :=
  List.length_filter_le _ _

/-! ### Flushes -/

/-- A report fits the ledger before and after the flush:

* it is about this kind, and all records that were buffered are flushed: none of them is left, and
  the records of the other kind stay;
* the categories are the different keys of the records, and there is one;
* what is written are the calls of the store of this kind, and there are no other calls; something
  is written for every category, and no counter of a category twice;
* not more records are selected than there are, and the batch is skipped exactly if none is. -/
structure Reported (k : Kind) (before : Ledger σ) (report : FlushReport) (after : Ledger σ) :
    Prop where
  kind_eq : report.kind = k
  records_eq : report.records = before.pending k
  emptied : after.pending k = 0
  others_eq : ∀ j, j ≠ k → after.buffers.get j = before.buffers.get j
  categories_eq : report.categories =
    ((before.buffers.get k).toList.map Record.key).dedup.length
  some_category : 1 ≤ report.categories
  written_eq : (after.books.of k).calls = (before.books.of k).calls + report.written
  calls_eq : after.books.calls = before.books.calls + report.written
  least_written : report.categories ≤ report.written
  most_written : report.written ≤ k.counters * report.categories
  selected_le : report.selected ≤ report.records
  skipped_iff : report.submission = .skipped ↔ report.selected = 0

/-- What a flush that unwinds leaves behind:

* no record of this kind is left, and the records of the other kind stay;
* nothing is submitted, and nothing is observed;
* the store has taken the counters of the records up to the first one whose total would not fit. -/
structure Unwound (k : Kind) (before after : Ledger σ) : Prop where
  emptied : after.pending k = 0
  others_eq : ∀ j, j ≠ k → after.buffers.get j = before.buffers.get j
  dispatcher_eq : after.dispatcher = before.dispatcher
  registry_eq : after.registry = before.registry
  levels_eq : after.levels = before.levels
  taken : ∃ front entry,
    front ++ [entry] <+: (Aggregation.ofRecords (before.buffers.get k).toList).entries ∧
    ¬ Signed64.Fits ((before.books.of k).total entry.1 + entry.2) ∧
    after.books = before.books.update k (·.addAll front) ∧
    after.books.calls = before.books.calls + front.length

/-- What a flush of a kind answers, and what it leaves behind:

* it answers nothing exactly if nothing was buffered, and then nothing has changed;
* it unwinds exactly if some total would not fit, and otherwise there is a report;
* any report fits. -/
structure Flushed (k : Kind) (before : Ledger σ) (outcome : FlushAnswer × Ledger σ) :
    Prop where
  nothing_iff : outcome.1 = .nothing ↔ before.pending k = 0
  unchanged : outcome.1 = .nothing → outcome.2 = before
  unwound_iff : outcome.1 = .unwound ↔
    ∃ entry ∈ (Aggregation.ofRecords (before.buffers.get k).toList).entries,
      ¬ Signed64.Fits ((before.books.of k).total entry.1 + entry.2)
  unwound : outcome.1 = .unwound → Unwound k before outcome.2
  reported : ∀ report, outcome.1 = .report report → Reported k before report outcome.2

theorem pending_eq_zero_iff {l : Ledger σ} :
    l.pending k = 0 ↔ (l.buffers.get k).toList = [] := by
  rw [pending, Buffer.size_eq_length, List.length_eq_zero_iff]

theorem pending_cleared (l : Ledger σ) (k : Kind) : (l.cleared k).pending k = 0 := by
  show ((l.buffers.set k .empty).get k).size = 0
  rw [PerKind.get_set_self]
  rfl

/-- The store takes everything exactly if all totals fit. -/
theorem accepts_eq_false_iff {l : Ledger σ} {records : List (Record k)} :
    l.accepts k records = false ↔ ∃ entry ∈ (Aggregation.ofRecords records).entries,
      ¬ Signed64.Fits ((l.books.of k).total entry.1 + entry.2) := by
  rw [← Bool.not_eq_true, accepts, Store.takes_iff (Aggregation.nodup_entries _)]
  push Not
  rfl

/-- The report of some records fits the ledger that they are taken out of. -/
theorem reported_of_accepts {l : Ledger σ} {place : Submission} (somewhere : place ≠ .skipped)
    (present : (l.buffers.get k).toList ≠ [])
    (all : l.accepts k (l.buffers.get k).toList = true) :
    Reported k l ((l.cleared k).reportOf place k (l.buffers.get k).toList)
      ((l.cleared k).posted place k (l.buffers.get k).toList) where
  kind_eq := rfl
  records_eq := (Buffer.size_eq_length _).symm
  emptied := l.pending_cleared k
  others_eq := fun j other => PerKind.get_set_of_ne _ other _
  categories_eq := Aggregation.size_ofRecords _
  some_category := Aggregation.size_pos present
  written_eq := by
    show ((l.books.update k _).of k).calls = _
    rw [Books.of_update_self]
    exact Store.calls_addAll_of_takes all
  calls_eq := Books.calls_update (Store.calls_addAll_of_takes all)
  least_written := Aggregation.size_le_length_entries _
  most_written := by
    rw [← Scheme.length_names]
    exact Aggregation.length_entries_le _
  selected_le := size_batch_le _ _
  skipped_iff := Dispatcher.submitTo_eq_skipped_iff _ somewhere _

/-- What is left of a ledger if some records are refused that are taken out of it. -/
theorem unwound_of_refused {l : Ledger σ} (refused : l.accepts k (l.buffers.get k).toList = false) :
    Unwound k l ((l.cleared k).spilled k (l.buffers.get k).toList) where
  emptied := l.pending_cleared k
  others_eq := fun j other => PerKind.get_set_of_ne _ other _
  dispatcher_eq := rfl
  registry_eq := rfl
  levels_eq := rfl
  taken := by
    obtain ⟨front, entry, part, too_much, taken, emit_eq⟩ := Aggregation.exists_front refused
    have books_eq : l.books.update k (Aggregation.ofRecords (l.buffers.get k).toList).emit =
        l.books.update k (·.addAll front) := Books.update_congr emit_eq
    refine ⟨front, entry, part, too_much, books_eq, ?_⟩
    show (l.books.update k _).calls = _
    rw [books_eq]
    exact Books.calls_update (Store.calls_addAll_of_takes taken)

theorem flushed_flushTo (l : Ledger σ) (k : Kind) {place : Submission}
    (somewhere : place ≠ .skipped) : Flushed k l (l.flushTo place k) := by
  by_cases nothing : (l.buffers.get k).toList = []
  · have fits : ¬ ∃ entry ∈ (Aggregation.ofRecords (l.buffers.get k).toList).entries,
        ¬ Signed64.Fits ((l.books.of k).total entry.1 + entry.2) := by
      rw [← accepts_eq_false_iff, nothing]
      exact Bool.noConfusion
    rw [flushTo_of_nil place nothing]
    exact
      { nothing_iff := iff_of_true rfl (pending_eq_zero_iff.2 nothing)
        unchanged := fun _ => rfl
        unwound_iff := iff_of_false FlushAnswer.noConfusion fits
        unwound := nofun
        reported := nofun }
  have present := pending_eq_zero_iff.not.2 nothing
  cases taken : l.accepts k (l.buffers.get k).toList with
  | true =>
    rw [flushTo_of_accepts place nothing taken]
    exact
      { nothing_iff := iff_of_false FlushAnswer.noConfusion present
        unchanged := nofun
        unwound_iff := iff_of_false FlushAnswer.noConfusion
          (accepts_eq_false_iff.not.1 (Bool.not_eq_false _ ▸ taken))
        unwound := nofun
        reported := by
          rintro report ⟨⟩
          exact reported_of_accepts somewhere nothing taken }
  | false =>
    rw [flushTo_of_refused place nothing taken]
    exact
      { nothing_iff := iff_of_false FlushAnswer.noConfusion present
        unchanged := nofun
        unwound_iff := iff_of_true rfl (accepts_eq_false_iff.1 taken)
        unwound := fun _ => unwound_of_refused taken
        reported := nofun }

/-- **What a flush promises.**  A flush answers nothing exactly if no record of its kind is
buffered, and then leaves everything as it is: the stores and their calls, the batches and the
crew, the world of the receiver, and both buffers.  Otherwise all records of the kind are taken and
none of the other kind, and there is a report, unless some total would not fit into 64 bits.  A
report fits: the categories are the different keys of the records, what is written are the calls of
the store, at least one and at most as many as there are counters for each category, and a batch is
submitted exactly if a record is selected.  A flush that unwinds submits nothing, and has written
the counters up to the first one that does not fit.  That is so in every state of the ledger, and
wherever the batch goes. -/
theorem flush_contract (l : Ledger σ) (k : Kind) :
    Flushed k l (l.flush k) ∧ ∀ place ≠ Submission.skipped, Flushed k l (l.flushTo place k) :=
  ⟨flushed_flushTo l k (Crew.place_ne_skipped _ _), fun _ somewhere =>
    flushed_flushTo l k somewhere⟩

/-- A ledger that ships no records of tasks, with a failure of one and a success of another. -/
def hushed : Ledger Unit :=
  let fresh := { simple with levels := ⟨fun _ => some .nothing, fun _ => none⟩ }
  (fresh.record .runner { taskClass := "a", state := .dataError }).record .runner
    { taskClass := "b", state := .success }

theorem flush_contract_of_hushed :
    Submission.callerRan ≠ .skipped ∧
    ∃ report, (hushed.flushTo .callerRan .runner).1 = .report report ∧ report.records = 2 ∧
      report.categories = 2 ∧ report.submission = .skipped ∧
      ((hushed.flushTo .callerRan .runner).2.books.of .runner).calls = report.written ∧
      2 ≤ report.written ∧ report.written ≤ 20 := by
  obtain ⟨-, anywhere⟩ := flush_contract hushed .runner
  have flushed := anywhere .callerRan (by decide)
  refine ⟨by decide, ?_⟩
  have present : hushed.pending .runner ≠ 0 := by decide
  have fit : ∀ entry ∈ (Aggregation.ofRecords (hushed.buffers.get .runner).toList).entries,
      Signed64.Fits ((hushed.books.of .runner).total entry.1 + entry.2) := by decide
  have none_selected : (hushed.flushTo .callerRan .runner).1.report?.map FlushReport.selected =
      some 0 := by
    decide
  cases told : (hushed.flushTo .callerRan .runner).1 with
  | nothing => exact absurd (flushed.nothing_iff.1 told) present
  | unwound =>
    obtain ⟨entry, there, too_much⟩ := flushed.unwound_iff.1 told
    exact absurd (fit entry there) too_much
  | report report =>
    have fits := flushed.reported report told
    have two : report.categories = 2 := fits.categories_eq.trans (by decide)
    rw [told] at none_selected
    have least := fits.least_written
    have most := fits.most_written
    rw [two] at least most
    refine ⟨report, rfl, fits.records_eq, two,
      fits.skipped_iff.2 (Option.some.inj none_selected), ?_, least, most⟩
    exact fits.written_eq.trans (Nat.zero_add _)

/-- Buffering records does nothing else. -/
theorem play_some (l : Ledger σ) (k : Kind) (records : List (Record k)) :
    (l.play k (records.map some)).books = l.books ∧
      ((l.play k (records.map some)).buffers.get k).toList =
        (l.buffers.get k).toList ++ records.map Record.normal := by
  induction records generalizing l with
  | nil => exact ⟨rfl, (List.append_nil _).symm⟩
  | cons r records ih =>
    obtain ⟨books_eq, buffer_eq⟩ := ih (l.record k r)
    refine ⟨books_eq, ?_⟩
    show (((l.record k r).play k (records.map some)).buffers.get k).toList = _
    rw [buffer_eq]
    simp [record, observe]

/-- Records are buffered alone and flushed; there is no report of more records if the store refuses
them then. -/
theorem play_unwound {l : Ledger σ} {records more : List (Record k)}
    (nothing : (l.buffers.get k).toList = []) (present : records ≠ []) (others : more ≠ [])
    (refused : ((Aggregation.ofRecords records).emit (l.books.of k)).takes
      (Aggregation.ofRecords more).entries = false) :
    let m := l.play k (records.map some ++ [none] ++ more.map some)
    m.pending k = more.length ∧ (m.flush k).1 = .unwound := by
  intro m
  -- after the flush
  obtain ⟨first, first_eq⟩ : ∃ first, l.play k (records.map some ++ [none]) = first := ⟨_, rfl⟩
  obtain ⟨books_eq, buffer_eq⟩ := l.play_some k records
  rw [nothing, List.nil_append] at buffer_eq
  have some_left : ((l.play k (records.map some)).buffers.get k).toList ≠ [] := by
    rwa [buffer_eq, ne_eq, List.map_eq_nil_iff]
  have emptied : (first.buffers.get k).toList = [] := by
    rw [← first_eq, play_concat_none]
    exact buffer_flushTo_self _
  have store_eq : first.books.of k = (Aggregation.ofRecords records).emit (l.books.of k) := by
    rw [← first_eq, play_concat_none, flush, flushTo_of_ne _ some_left, books_postTo]
    show ((l.play k (records.map some)).books.update k _).of k = _
    rw [Books.of_update_self, books_eq, buffer_eq, Aggregation.ofRecords_normal]
  -- after more records
  have m_eq : m = first.play k (more.map some) := by
    rw [← first_eq, play, play, ← List.foldl_append]
    rfl
  obtain ⟨books_eq', buffer_eq'⟩ := first.play_some k more
  rw [← m_eq, emptied, List.nil_append] at buffer_eq'
  rw [← m_eq] at books_eq'
  have still : m.accepts k (m.buffers.get k).toList = false := by
    rwa [accepts, books_eq', store_eq, buffer_eq', Aggregation.ofRecords_normal]
  refine ⟨?_, ?_⟩
  · rw [pending, Buffer.size_eq_length, buffer_eq', List.length_map]
  · refine congrArg Prod.fst (flushTo_of_refused _ ?_ still)
    rwa [buffer_eq', ne_eq, List.map_eq_nil_iff]

/-- The first tasks bring the total of their milliseconds to the end of 64 bits; as many more of
them are buffered, and there is no report of these. -/
theorem flush_without_report :
    let tasks := List.replicate 558 (some Runner.farthest)
    let l := simple.play .runner (tasks ++ [none] ++ tasks)
    l.pending .runner = 558 ∧ (l.flush .runner).1 = .unwound := by
  -- the number is not looked at, lest it be counted down
  obtain ⟨n, many⟩ : ∃ n, n = 558 := ⟨558, rfl⟩
  have refused : ¬ Store.empty.Returns [Batch.farthest n] (Batch.farthest n) :=
    many ▸ Store.not_returns_farthest
  have present : List.replicate n Runner.farthest ≠ [] := by
    rw [ne_eq, List.replicate_eq_nil_iff, many]
    decide
  obtain ⟨pending_eq, unwound⟩ := play_unwound (l := simple) (k := .runner) rfl present present
    (Bool.eq_false_iff.2 refused)
  rw [List.map_replicate, List.length_replicate] at pending_eq
  rw [List.map_replicate] at unwound
  rw [← many]
  exact ⟨pending_eq, unwound⟩

end Ledger

end TaskLedger
