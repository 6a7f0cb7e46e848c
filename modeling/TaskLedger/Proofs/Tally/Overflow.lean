import Mathlib
import TaskLedger.Outcome.Batch
import TaskLedger.Proofs.Tally.Entries

/-!
# Totals beyond 64 bits

A batch cuts its sums of milliseconds off at either end of 64 bits.  A store does not: it refuses an
amount where the total would leave the range, and whoever flushes the batch unwinds.  So no total is
ever wrong, and none falls that should only grow; but what comes after the amount that is refused is
never written.

* `Store.flushAll`: a store after some batches, and `writtenBy`: what they write under a name;
* `Store.returns_iff` and `Store.returnsAll_iff`: when a flush returns, and when all of them do;
* `Store.total_le_concat`: amounts that are not negative never make a total smaller;
* `Batch.writes_count`: a counter of records is never negative, and no batch adds more than its
  records;
* `total_of_flushes` puts this together, and `second_flush_unwinds` is a flush that does not return.
-/

namespace TaskLedger

variable {k : Kind}

/-! ### Numbers outside of 64 bits -/

/-- Numbers that are not negative are added up as far as 64 bits reach. -/
theorem Signed64.sum_of_nonneg {amounts : List Int} (h : ∀ amount ∈ amounts, 0 ≤ amount) :
    Signed64.sum amounts = min greatest amounts.sum := by
  induction amounts using List.reverseRecOn with
  | nil => rfl
  | append_singleton amounts amount ih =>
    have before : ∀ other ∈ amounts, 0 ≤ other :=
      fun other ho => h other (List.mem_append_left _ ho)
    have low := List.sum_nonneg before
    have here := h amount (List.mem_append_right amounts List.mem_cons_self)
    rw [sum_concat, ih before, List.sum_append, List.sum_singleton]
    simp only [saturate, least, greatest]
    omega

/-! ### What batches write -/

namespace Batch

/-- What a batch writes to a store. -/
def entries (batch : Batch) : List (String × Int) :=
  (Aggregation.ofRecords batch.records).entries

/-- What a batch adds to the total under a name. -/
def writes (batch : Batch) (name : String) : Int :=
  written batch.entries name

end Batch

/-- What some batches add to the total under a name, all in all. -/
def writtenBy (batches : List Batch) (name : String) : Int :=
  (batches.map fun batch => batch.writes name).sum

theorem writtenBy_concat (batches : List Batch) (batch : Batch) (name : String) :
    writtenBy (batches ++ [batch]) name = writtenBy batches name + batch.writes name := by
  simp [writtenBy]

/-- A counter of records of one kind is one of the other kind too, or no counter of it at all. -/
theorem Scheme.count_or_notMem {j : Kind} {count : Count (Record k)} (h : count ∈ (of k).counts) :
    (∃ other ∈ (of j).counts, other.name = count.name) ∨ count.name ∉ (of j).names := by
  have all : ∀ name ∈ (of k).counts.map Count.name,
      name ∈ (of j).counts.map Count.name ∨ name ∉ (of j).names := by
    cases k <;> cases j <;> decide
  exact (all count.name (List.mem_map_of_mem h)).imp_left List.mem_map.1

namespace Batch

variable (batch : Batch)

/-- Under the name of no counter of its kind a batch writes nothing. -/
theorem writes_of_no_counter {name : String} (h : ∀ category,
    ∀ counter ∈ (Scheme.of batch.kind).names, Aggregation.counterName category counter ≠ name) :
    batch.writes name = 0 :=
  Aggregation.written_of_no_counter _ h

/-- What a batch writes under the name of a counter of records is not negative, and no more than its
records. -/
theorem writes_count {count : Count (Record k)} (h : count ∈ (Scheme.of k).counts)
    (category : String) :
    0 ≤ batch.writes (Aggregation.counterName category count.name) ∧
      batch.writes (Aggregation.counterName category count.name) ≤ batch.size := by
  rcases Scheme.count_or_notMem (j := batch.kind) h with ⟨other, counts, same⟩ | absent
  · rw [← same, writes, entries,
      Aggregation.written_counterName _ (Scheme.count_mem_names counts),
      Aggregation.getD_value?_count _ _ counts]
    have le : (batch.records.filter (·.key = category)).countP other.counts ≤ batch.size :=
      List.countP_le_length.trans (List.length_filter_le _ _)
    omega
  · rw [batch.writes_of_no_counter]
    · exact ⟨Int.le_refl 0, Int.natCast_nonneg _⟩
    · intro category' counter there same
      rw [(counterName_inj there (Scheme.count_mem_names h) same).2] at there
      exact absent there

/-- What a batch writes under a name fits into 64 bits, unless it has too many records. -/
theorem fits_writes (few : batch.size < 2 ^ 63) (name : String) :
    Signed64.Fits (batch.writes name) := by
  by_cases meant : ∃ category, ∃ counter ∈ (Scheme.of batch.kind).names,
      Aggregation.counterName category counter = name
  · obtain ⟨category, counter, named, rfl⟩ := meant
    rw [writes, entries, Aggregation.written_counterName _ named]
    cases found : (Aggregation.ofRecords batch.records).value? category counter with
    | none => exact Signed64.fits_zero
    | some value =>
      obtain ⟨b, hb, pair⟩ := Aggregation.value?_eq_some_iff.1 found
      exact Aggregation.fits_of_get? few hb value (List.of_mem_zip pair).2
  · push Not at meant
    rw [batch.writes_of_no_counter meant]
    exact Signed64.fits_zero

end Batch

/-- What a part of a batch writes under a name is all that the batch writes there, or nothing. -/
theorem written_of_prefix {front entries : List (String × Int)} (part : front <+: entries)
    (distinct : (entries.map Prod.fst).Nodup) (name : String) :
    written front name = written entries name ∨ written front name = 0 := by
  by_cases there : name ∈ front.map Prod.fst
  · obtain ⟨⟨name, amount⟩, he, rfl⟩ := List.mem_map.1 there
    have of_all : written entries name = amount :=
      sum_of_mem (f := id) (List.pairwise_map.1 distinct) (part.subset he)
    have of_front : written front name = amount :=
      sum_of_mem (f := id) (List.pairwise_map.1 (distinct.sublist (part.sublist.map _))) he
    exact .inl (of_front.trans of_all.symm)
  · exact .inr (Aggregation.written_of_notMem there)

/-! ### Stores after some batches -/

namespace Store

variable {batches : List Batch} {name : String}

/-- A store after some batches, one after another. -/
def flushAll (s : Store) (batches : List Batch) : Store :=
  batches.foldl (fun s batch => (Aggregation.ofRecords batch.records).emit s) s

theorem flushAll_concat (s : Store) (front : List Batch) (batch : Batch) :
    s.flushAll (front ++ [batch]) = (s.flushAll front).addAll batch.entries :=
  List.foldl_concat ..

/-- Whether the flush of a batch returns that comes after some others. -/
def Returns (s : Store) (front : List Batch) (batch : Batch) : Prop :=
  (s.flushAll front).takes batch.entries = true

/-- Whether the flushes of all batches return. -/
def ReturnsAll (s : Store) (batches : List Batch) : Prop :=
  ∀ front batch, front ++ [batch] <+: batches → s.Returns front batch

theorem returnsAll_nil (s : Store) : s.ReturnsAll [] := by
  intro front batch part
  have some_batch := List.append_ne_nil_of_right_ne_nil front (List.cons_ne_nil batch [])
  exact absurd (List.prefix_nil.1 part) some_batch

theorem returnsAll_cons {s : Store} {batch : Batch} : s.ReturnsAll (batch :: batches) ↔
    s.takes batch.entries = true ∧ (s.addAll batch.entries).ReturnsAll batches := by
  constructor
  · intro all
    exact ⟨all [] batch (List.prefix_append [batch] batches), fun front last part =>
      all (batch :: front) last (List.cons_prefix_cons.2 ⟨rfl, part⟩)⟩
  · rintro ⟨first, rest⟩ front last part
    cases front with
    | nil =>
      obtain ⟨rfl, -⟩ := List.cons_prefix_cons.1 part
      exact first
    | cons other front =>
      obtain ⟨rfl, later⟩ := List.cons_prefix_cons.1 part
      exact rest front last later

theorem Fits.flushAll {s : Store} (h : s.Fits) (batches : List Batch) :
    (s.flushAll batches).Fits := by
  induction batches using List.reverseRecOn with
  | nil => exact h
  | append_singleton front batch ih =>
    rw [flushAll_concat]
    exact ih.addAll _

/-- A flush returns if and only if all totals fit afterwards. -/
theorem returns_iff (front : List Batch) (batch : Batch) : empty.Returns front batch ↔
    ∀ name, Signed64.Fits ((empty.flushAll front).total name + batch.writes name) :=
  Aggregation.takes_iff (fits_empty.flushAll front)

/-- The first batch is taken, unless it has too many records. -/
theorem returns_first {batch : Batch} (few : batch.size < 2 ^ 63) : empty.Returns [] batch := by
  rw [returns_iff]
  intro name
  show Signed64.Fits (empty.total name + _)
  rw [total_empty, zero_add]
  exact batch.fits_writes few name

theorem total_concat_of_returns {front : List Batch} {batch : Batch}
    (returned : empty.Returns front batch) (name : String) :
    (empty.flushAll (front ++ [batch])).total name =
      (empty.flushAll front).total name + batch.writes name := by
  rw [flushAll_concat, total_addAll_of_takes returned]
  rfl

theorem ReturnsAll.front {front : List Batch} (h : empty.ReturnsAll batches)
    (part : front <+: batches) : empty.ReturnsAll front :=
  fun before batch early => h before batch (early.trans part)

/-- If all flushes return, the total under a name is what was written under it. -/
theorem ReturnsAll.total_eq (h : empty.ReturnsAll batches) (name : String) :
    (empty.flushAll batches).total name = writtenBy batches name := by
  induction batches using List.reverseRecOn with
  | nil => exact total_empty name
  | append_singleton front batch ih =>
    rw [total_concat_of_returns (h front batch List.prefix_rfl), writtenBy_concat,
      ih (h.front (List.prefix_append front [batch]))]

/-- All flushes return if and only if all sums fit on the way. -/
theorem returnsAll_iff : empty.ReturnsAll batches ↔
    ∀ front, front <+: batches → ∀ name, Signed64.Fits (writtenBy front name) := by
  constructor
  · intro all front part name
    rw [← (all.front part).total_eq]
    exact fits_empty.flushAll front name
  · intro fits
    induction batches using List.reverseRecOn with
    | nil => exact returnsAll_nil empty
    | append_singleton before last ih =>
      have early : empty.ReturnsAll before := ih fun front part =>
        fits front (part.trans (List.prefix_append before [last]))
      intro front batch part
      rcases List.prefix_concat_iff.1 part with whole | inside
      · obtain ⟨rfl, same⟩ := List.append_inj' whole rfl
        obtain rfl := List.singleton_inj.1 same
        rw [returns_iff]
        intro name
        rw [early.total_eq, ← writtenBy_concat]
        exact fits _ List.prefix_rfl name
      · exact early front batch inside

/-- Whether a flush returns or not, it makes no total smaller under which it writes nothing
negative. -/
theorem total_le_concat {front : List Batch} {batch : Batch} (natural : 0 ≤ batch.writes name) :
    (empty.flushAll front).total name ≤ (empty.flushAll (front ++ [batch])).total name := by
  rw [flushAll_concat, total_addAll]
  have part := (empty.flushAll front).prefix_taken batch.entries
  rcases written_of_prefix part (Aggregation.nodup_entries _) name with all | nothing
  · rw [all]
    exact le_add_of_nonneg_right natural
  · rw [nothing, add_zero]

/-- The counters of fewer than `2 ^ 63` records fit. -/
theorem fits_of_count {count : Count (Record k)} (h : count ∈ (Scheme.of k).counts)
    (few : (batches.map Batch.size).sum < 2 ^ 63) (category : String) :
    Signed64.Fits (writtenBy batches (Aggregation.counterName category count.name)) := by
  have low : 0 ≤ writtenBy batches (Aggregation.counterName category count.name) := by
    refine List.sum_nonneg fun amount ha => ?_
    obtain ⟨batch, -, rfl⟩ := List.mem_map.1 ha
    exact (batch.writes_count h category).1
  have high : writtenBy batches (Aggregation.counterName category count.name) ≤
      ((batches.map Batch.size).sum : Int) := by
    rw [writtenBy, Nat.cast_list_sum, List.map_map]
    exact List.sum_le_sum fun batch _ => (batch.writes_count h category).2
  simp only [Signed64.Fits, Signed64.least, Signed64.greatest]
  omega

end Store

/-! ### Records from one end of time to the other -/

/-- The first instant. -/
def Instant.first : Instant :=
  ⟨firstDay, 0, 0, by decide, epoch.second_lt, epoch.nano_lt⟩

/-- The last instant that is in no leap second. -/
def Instant.last : Instant :=
  ⟨lastDay, 86399, 999999999, by decide, by decide, by decide⟩

/-- A task that was queued at the first instant and done at the last one. -/
def Runner.farthest : Record .runner :=
  show Runner.Outcome from
    { taskClass := "far", state := .success, queuedAt := some .first, finishedAt := some .last }

/-- A batch of such tasks. -/
def Batch.farthest (n : Nat) : Batch :=
  ⟨.runner, List.replicate n Runner.farthest⟩

/-- The milliseconds of such tasks are added up within 64 bits. -/
theorem Batch.writes_farthest {n : Nat} (pos : 0 < n) :
    (Batch.farthest n).writes "far.timeAll" =
      Signed64.sum (List.replicate n (Instant.elapsedMillis .first .last)) := by
  let phase : Phase (Record .runner) :=
    ⟨"timeAll", Runner.Outcome.queuedAt, Runner.Outcome.finishedAt⟩
  have counted : phase ∈ (Scheme.of .runner).phases := List.mem_cons_self
  have millis : phase.millis Runner.farthest = some (Instant.elapsedMillis .first .last) := rfl
  have all : (List.replicate n Runner.farthest).filter (·.key = "far") =
      List.replicate n Runner.farthest := by
    rw [List.filter_replicate, if_pos (by decide)]
  have present : (List.replicate n Runner.farthest).filter (·.key = "far") ≠ [] := by
    rw [all]
    exact List.ne_nil_of_length_pos (by rwa [List.length_replicate])
  have value := Aggregation.value?_phase present counted
  rw [all, List.filterMap_replicate_of_some millis] at value
  have name_eq : "far.timeAll" = Aggregation.counterName "far" "timeAll" := by decide
  have named : "timeAll" ∈ (Scheme.of .runner).names := by decide
  rw [name_eq, writes, entries]
  exact (Aggregation.written_counterName _ named).trans (congrArg (·.getD 0) value)

theorem Instant.elapsedMillis_first_last : elapsedMillis first last = 16544868105599999 := by
  decide

/-- The milliseconds of 558 such tasks or more do not fit. -/
theorem Batch.writes_farthest_of_le {n : Nat} (many : 558 ≤ n) :
    (Batch.farthest n).writes "far.timeAll" = Signed64.greatest := by
  have natural : ∀ amount ∈ List.replicate n (Instant.elapsedMillis .first .last), 0 ≤ amount := by
    intro amount ha
    rw [List.eq_of_mem_replicate ha, Instant.elapsedMillis_first_last]
    decide
  rw [Batch.writes_farthest (by omega), Signed64.sum_of_nonneg natural, List.sum_replicate,
    nsmul_eq_mul, Instant.elapsedMillis_first_last, Signed64.greatest]
  omega

/-- Of 558 such tasks or more a single batch reaches the end of 64 bits. -/
theorem Store.total_farthest {n : Nat} (many : 558 ≤ n) (few : n < 2 ^ 63) :
    (empty.flushAll [Batch.farthest n]).total "far.timeAll" = Signed64.greatest := by
  have size : (Batch.farthest n).size < 2 ^ 63 := by
    rw [Batch.size, Batch.farthest, List.length_replicate]
    exact few
  have total_eq := total_concat_of_returns (returns_first size) "far.timeAll"
  rw [Batch.writes_farthest_of_le many] at total_eq
  exact total_eq.trans ((congrArg (· + _) (total_empty _)).trans (zero_add _))

/-- A second batch does not fit then. -/
theorem Store.not_returns_farthest :
    ¬ empty.Returns [Batch.farthest 558] (Batch.farthest 558) := by
  rw [returns_iff]
  intro fits
  have sum := fits "far.timeAll"
  rw [total_farthest le_rfl (by decide), Batch.writes_farthest_of_le le_rfl] at sum
  revert sum
  decide

/-- **A store refuses what does not fit.**  Batches are flushed one after another.  Every total is
an exact sum of what the store took, and fits into 64 bits.  The flush of a batch returns if and
only if all totals fit afterwards, and then they have grown by what the batch writes; otherwise it
unwinds, and the store has taken the entries of the batch up to some point.  All flushes return if
and only if all sums fit on the way, and then every total is what was written in all.  Whether a
flush returns or not, no total falls under which it writes nothing negative.  That is so for the
counters of records, which fit if there are fewer than `2 ^ 63` records in all. -/
theorem total_of_flushes (batches : List Batch) :
    let total (front : List Batch) (name : String) := (Store.empty.flushAll front).total name
    (∀ front batch,
      (Store.empty.Returns front batch ↔
        ∀ name, Signed64.Fits (total front name + batch.writes name)) ∧
      (Store.empty.Returns front batch → ∀ name,
        total (front ++ [batch]) name = total front name + batch.writes name) ∧
      (∃ taken, taken <+: batch.entries ∧ ∀ name,
        total (front ++ [batch]) name = total front name + written taken name) ∧
      ∀ name, Signed64.Fits (total front name)) ∧
    (Store.empty.ReturnsAll batches ↔
      ∀ front, front <+: batches → ∀ name, Signed64.Fits (writtenBy front name)) ∧
    (Store.empty.ReturnsAll batches → ∀ name, total batches name = writtenBy batches name) ∧
    (∀ front batch name, 0 ≤ batch.writes name →
      total front name ≤ total (front ++ [batch]) name) ∧
    ∀ k category, ∀ count ∈ (Scheme.of k).counts,
      let name := Aggregation.counterName category count.name
      (∀ batch : Batch, 0 ≤ batch.writes name) ∧
      ((batches.map Batch.size).sum < 2 ^ 63 → Signed64.Fits (writtenBy batches name)) := by
  intro total
  refine ⟨fun front batch => ⟨Store.returns_iff front batch, Store.total_concat_of_returns,
    ⟨_, (Store.empty.flushAll front).prefix_taken batch.entries, fun name => ?_⟩,
    Store.fits_empty.flushAll front⟩,
    Store.returnsAll_iff, Store.ReturnsAll.total_eq, fun front batch name => Store.total_le_concat,
    fun k category count counts => ⟨fun batch => (batch.writes_count counts category).1, fun few =>
      Store.fits_of_count counts few category⟩⟩
  show (Store.empty.flushAll (front ++ [batch])).total name = _
  rw [Store.flushAll_concat, Store.total_addAll]

/-- The milliseconds of both batches together do not fit, so one of their flushes unwinds. -/
theorem total_of_flushes_of_farthest :
    ¬ Store.empty.ReturnsAll [Batch.farthest 558, Batch.farthest 558] := by
  obtain ⟨-, returnsAll_iff, -⟩ := total_of_flushes [Batch.farthest 558, Batch.farthest 558]
  intro all
  have fits := returnsAll_iff.1 all _ List.prefix_rfl "far.timeAll"
  rw [writtenBy, List.map_cons, List.map_singleton, Batch.writes_farthest_of_le le_rfl] at fits
  revert fits
  decide

/-- The second of two batches that add up milliseconds to the end of 64 bits is refused, where a
single batch of the same records leaves the end of 64 bits. -/
theorem second_flush_unwinds :
    (Batch.farthest 558).writes "far.timeAll" = 9223372036854775807 ∧
    (Store.empty.flushAll [Batch.farthest 558]).total "far.timeAll" = 9223372036854775807 ∧
    ¬ Store.empty.Returns [Batch.farthest 558] (Batch.farthest 558) ∧
    (Store.empty.flushAll [Batch.farthest (558 + 558)]).total "far.timeAll" =
      9223372036854775807 :=
  ⟨Batch.writes_farthest_of_le le_rfl, Store.total_farthest le_rfl (by decide),
    Store.not_returns_farthest, Store.total_farthest (by decide) (by decide)⟩

end TaskLedger
