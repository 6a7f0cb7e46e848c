import Mathlib
import TaskLedger.Proofs.Ledger.Posting
import TaskLedger.Proofs.Tally.Categories
import TaskLedger.Proofs.Tally.Stores

/-!
# What is written to a store

A batch writes the counters of its categories that are not zero, each of them once, under names that
no other counter has.  So the totals under these names change by the values of the counters, and
all other ones stay as they are.

* `Aggregation.mem_entries` and `Aggregation.nodup_entries`: what is written, and that no name comes
  twice;
* `Aggregation.takes_iff`: everything is taken if and only if all totals fit afterwards;
* `Aggregation.size_le_length_entries` and `Aggregation.length_entries_le`: how often a batch writes
  something;
* `Aggregation.exists_front`: where something is refused, everything before it is taken;
* `Aggregation.written_once` puts this together.
-/

namespace TaskLedger

variable {k : Kind}

/-! ### The entries of a batch -/

namespace Aggregation

/-- A bucket writes its values that are not zero. -/
theorem bucketEntries_eq (category : String) (b : Bucket) : bucketEntries k category b =
    ((List.zip (Scheme.of k).names b.values).filter fun entry => entry.2 ≠ 0).map
      fun entry => (counterName category entry.1, entry.2) := by
  rw [bucketEntries]
  induction List.zip (Scheme.of k).names b.values with
  | nil => rfl
  | cons entry entries ih =>
    by_cases zero : entry.2 = 0
    · simp [ih, zero]
    · simp [ih, zero]

theorem mem_bucketEntries {category name : String} {b : Bucket} {amount : Int} :
    (name, amount) ∈ bucketEntries k category b ↔
      ∃ counter, (counter, amount) ∈ List.zip (Scheme.of k).names b.values ∧ amount ≠ 0 ∧
        counterName category counter = name := by
  rw [bucketEntries_eq, List.mem_map]
  constructor
  · rintro ⟨⟨counter, value⟩, kept, same⟩
    obtain ⟨rfl, rfl⟩ := Prod.mk.inj same
    obtain ⟨pair, some⟩ := List.mem_filter.1 kept
    exact ⟨counter, pair, of_decide_eq_true some, rfl⟩
  · rintro ⟨counter, pair, some, rfl⟩
    exact ⟨(counter, amount), List.mem_filter.2 ⟨pair, decide_eq_true some⟩, rfl⟩

/-- The values of a bucket are those of its counters. -/
theorem value?_eq_some_iff {a : Aggregation k} {category counter : String} {value : Int} :
    a.value? category counter = some value ↔
      ∃ b, a.get? category = some b ∧ (counter, value) ∈ List.zip (Scheme.of k).names b.values := by
  constructor
  · intro found
    have named : counter ∈ (Scheme.of k).names := by
      by_contra other
      rw [value?_of_notMem a category other] at found
      cases found
    obtain ⟨slot, there⟩ := List.getElem?_of_mem named
    rw [value?_eq a category there, Option.bind_eq_some_iff] at found
    obtain ⟨b, hb, valued⟩ := found
    exact ⟨b, hb, List.mem_of_getElem? (List.getElem?_zip_eq_some.2 ⟨there, valued⟩)⟩
  · rintro ⟨b, hb, pair⟩
    obtain ⟨slot, there⟩ := List.getElem?_of_mem pair
    obtain ⟨named, valued⟩ := List.getElem?_zip_eq_some.1 there
    rw [value?_eq a category named, hb]
    exact valued

/-- A counter of records, zero if the category has none. -/
theorem getD_value?_count (records : List (Record k)) (category : String)
    {count : Count (Record k)} (h : count ∈ (Scheme.of k).counts) :
    ((ofRecords records).value? category count.name).getD 0 =
      ((records.filter (·.key = category)).countP count.counts : Int) := by
  by_cases nothing : records.filter (·.key = category) = []
  · cases found : (ofRecords records).value? category count.name with
    | none =>
      rw [nothing]
      rfl
    | some value =>
      obtain ⟨b, hb, -⟩ := value?_eq_some_iff.1 found
      exact absurd nothing (ne_nil_of_get? hb)
  · rw [value?_count nothing h]
    rfl

theorem nonneg_of_count {records : List (Record k)} {category : String}
    {count : Count (Record k)} (h : count ∈ (Scheme.of k).counts) {value : Int}
    (found : (ofRecords records).value? category count.name = some value) : 0 ≤ value := by
  have value_eq := getD_value?_count records category h
  rw [found, Option.getD_some] at value_eq
  rw [value_eq]
  exact Int.natCast_nonneg _

/-- A batch writes the counters of its categories that are not zero. -/
theorem mem_entries {a : Aggregation k} {name : String} {amount : Int} :
    (name, amount) ∈ a.entries ↔ ∃ category counter,
      a.value? category counter = some amount ∧ amount ≠ 0 ∧
        counterName category counter = name := by
  rw [entries, List.mem_flatMap]
  constructor
  · rintro ⟨⟨category, b⟩, there, written⟩
    obtain ⟨counter, pair, some, named⟩ := mem_bucketEntries.1 written
    exact ⟨category, counter, value?_eq_some_iff.2 ⟨b, mem_toList.1 there, pair⟩, some, named⟩
  · rintro ⟨category, counter, value, some, named⟩
    obtain ⟨b, there, pair⟩ := value?_eq_some_iff.1 value
    exact ⟨(category, b), mem_toList.2 there, mem_bucketEntries.2 ⟨counter, pair, some, named⟩⟩

theorem mem_names_of_value? {a : Aggregation k} {category counter : String} {value : Int}
    (h : a.value? category counter = some value) : counter ∈ (Scheme.of k).names := by
  obtain ⟨b, -, pair⟩ := value?_eq_some_iff.1 h
  exact (List.of_mem_zip pair).1

/-- A bucket writes nothing twice under one name. -/
theorem nodup_bucketEntries (category : String) (b : Bucket) :
    (bucketEntries k category b).Pairwise fun p q => p.1 ≠ q.1 := by
  rw [bucketEntries_eq, List.pairwise_map]
  refine ((distinct_zip_names b.values).sublist List.filter_sublist).imp_of_mem ?_
  intro p q hp hq different same
  have named : ∀ entry ∈ (List.zip (Scheme.of k).names b.values).filter fun entry => entry.2 ≠ 0,
      entry.1 ∈ (Scheme.of k).names :=
    fun entry he => (List.of_mem_zip (List.mem_of_mem_filter he)).1
  exact different (counterName_inj (named p hp) (named q hq) same).2

/-- Nothing is written twice under one name. -/
theorem nodup_entries (a : Aggregation k) : (a.entries.map Prod.fst).Nodup := by
  rw [List.Nodup, List.pairwise_map, entries, List.pairwise_flatMap]
  refine ⟨fun entry _ => nodup_bucketEntries entry.1 entry.2, ?_⟩
  have categories : a.toList.Pairwise fun p q => p.1 ≠ q.1 :=
    List.pairwise_map.1 a.nodup_categories
  -- names of two categories are different, whichever counters they are of
  refine categories.imp fun {p q} different => ?_
  rintro ⟨name, amount⟩ written ⟨name', amount'⟩ written' same
  obtain ⟨counter, pair, -, rfl⟩ := mem_bucketEntries.1 written
  obtain ⟨counter', pair', -, rfl⟩ := mem_bucketEntries.1 written'
  exact different (counterName_inj (List.of_mem_zip pair).1 (List.of_mem_zip pair').1 same).1

/-- What a batch writes under a name is written by one entry. -/
theorem written_of_mem {a : Aggregation k} {name : String} {amount : Int}
    (h : (name, amount) ∈ a.entries) : written a.entries name = amount :=
  sum_of_mem (f := id) (List.pairwise_map.1 a.nodup_entries) h

theorem written_of_notMem {entries : List (String × Int)} {name : String}
    (h : name ∉ entries.map Prod.fst) : written entries name = 0 :=
  sum_of_notMem (f := id) fun _ he same => h (same ▸ List.mem_map_of_mem he)

/-- A store takes all counters of a batch if and only if all totals fit afterwards. -/
theorem takes_iff {a : Aggregation k} {s : Store} (fits : s.Fits) : s.takes a.entries = true ↔
    ∀ name, Signed64.Fits (s.total name + written a.entries name) := by
  rw [Store.takes_iff a.nodup_entries]
  constructor
  · intro each name
    by_cases there : name ∈ a.entries.map Prod.fst
    · obtain ⟨entry, he, rfl⟩ := List.mem_map.1 there
      rw [written_of_mem he]
      exact each entry he
    · rw [written_of_notMem there, add_zero]
      exact fits name
  · intro all entry he
    rw [← written_of_mem he]
    exact all entry.1

/-! ### How many there are -/

theorem length_entries (a : Aggregation k) :
    a.entries.length =
      (a.toList.map fun entry => (bucketEntries k entry.1 entry.2).length).sum := by
  rw [entries, List.length_flatMap]

theorem length_toList (a : Aggregation k) : a.toList.length = a.size :=
  Std.TreeMap.length_toList

/-- A category has no more values than counters. -/
theorem length_entries_le (a : Aggregation k) :
    a.entries.length ≤ (Scheme.of k).names.length * a.size := by
  rw [length_entries, ← length_toList, Nat.mul_comm, ← smul_eq_mul,
    ← List.length_map fun entry => (bucketEntries k entry.1 entry.2).length]
  refine List.sum_le_card_nsmul _ _ fun count hc => ?_
  obtain ⟨⟨category, b⟩, -, rfl⟩ := List.mem_map.1 hc
  calc (bucketEntries k category b).length
      ≤ (List.zip (Scheme.of k).names b.values).length := List.length_filterMap_le _ _
    _ ≤ (Scheme.of k).names.length := by
      rw [List.length_zip]
      exact Nat.min_le_left _ _

/-- Every category has records, so their number is written. -/
theorem size_le_length_entries (records : List (Record k)) :
    (ofRecords records).size ≤ (ofRecords records).entries.length := by
  rw [length_entries, ← length_toList, ← Nat.mul_one (List.length _), ← smul_eq_mul,
    ← List.length_map fun entry => (bucketEntries k entry.1 entry.2).length]
  refine List.card_nsmul_le_sum _ _ fun count hc => ?_
  obtain ⟨⟨category, b⟩, there, rfl⟩ := List.mem_map.1 hc
  have found := mem_toList.1 there
  have present := ne_nil_of_get? found
  have number := value?_count present (Scheme.all_mem k)
  obtain ⟨b', found', pair⟩ := value?_eq_some_iff.1 number
  obtain rfl : b = b' := Option.some.inj (found.symm.trans found')
  refine List.length_pos_of_mem (mem_bucketEntries.2 ⟨"numAll", pair, ?_, rfl⟩)
  rw [List.countP_true]
  have some := List.length_pos_of_ne_nil present
  omega

/-! ### What is refused -/

/-- Where some sum does not fit, the counters are written up to the first one whose sum does not
fit. -/
theorem exists_front {a : Aggregation k} {s : Store} (refused : s.takes a.entries = false) :
    ∃ front entry, front ++ [entry] <+: a.entries ∧
      ¬ Signed64.Fits (s.total entry.1 + entry.2) ∧
      s.takes front = true ∧ a.emit s = s.addAll front := by
  obtain ⟨entry, part, first⟩ := Store.exists_refused refused
  -- the entry is the only one under its name, so nothing was added to that total before
  have apart : entry.1 ∉ (s.taken a.entries).map Prod.fst := by
    have names := (part.sublist.map Prod.fst).nodup (nodup_entries a)
    rw [List.map_append, List.map_singleton] at names
    exact fun there => (List.nodup_append.1 names).2.2 _ there _ List.mem_cons_self rfl
  have total_eq : (s.addAll a.entries).total entry.1 = s.total entry.1 := by
    rw [Store.total, Store.get?_addAll_of_notMem_taken apart, Store.total]
  exact ⟨s.taken a.entries, entry, part, total_eq ▸ Store.add?_eq_none_iff.1 first,
    Store.takes_taken s a.entries, (Store.addAll_taken s a.entries).symm⟩

/-! ### All in all -/

/-- **Every counter is written once.**  A batch writes nothing twice under one name, and nothing
that is zero; what it writes under a name is the value of one counter of one category, and every
counter that is not zero is written under one name.  Where all sums fit, the total under each of
these names has grown by the value of the counter, and the number of calls by the number of counters
that were written, which a flush reports; there is at least one for each category, and at most one
for each of its counters.  Where some sum does not fit, a flush unwinds, and the counters were
written up to the first one whose sum does not fit.  Under all other names the totals are what they
were. -/
theorem written_once (σ : Type) (records : List (Record k)) (s : Store) :
    let a := ofRecords records
    let names := a.entries.map Prod.fst
    let fits := ∀ entry ∈ a.entries, Signed64.Fits (s.total entry.1 + entry.2)
    names.Nodup ∧
    (∀ name amount, (name, amount) ∈ a.entries ↔ ∃ category counter,
      a.value? category counter = some amount ∧ amount ≠ 0 ∧ counterName category counter = name) ∧
    (∀ category counter value, a.value? category counter = some value →
      names.count (counterName category counter) = if value = 0 then 0 else 1) ∧
    (fits → ∀ name amount, (name, amount) ∈ a.entries →
      (a.emit s).get? name = some (s.total name + amount)) ∧
    (∀ name, name ∉ names → (a.emit s).get? name = s.get? name) ∧
    (fits → (a.emit s).calls = s.calls + a.entries.length ∧
      ∀ l : Ledger σ, l.books.of k = s → ∃ report,
        (l.post k records).1 = .report report ∧ report.written = a.entries.length) ∧
    a.size ≤ a.entries.length ∧ a.entries.length ≤ (Scheme.of k).names.length * a.size ∧
    (¬ fits → ∃ front entry, front ++ [entry] <+: a.entries ∧
      ¬ Signed64.Fits (s.total entry.1 + entry.2) ∧
      (a.emit s).calls = s.calls + front.length ∧
      (∀ name amount, (name, amount) ∈ front →
        (a.emit s).get? name = some (s.total name + amount)) ∧
      (∀ name, name ∉ front.map Prod.fst → (a.emit s).get? name = s.get? name) ∧
      ∀ l : Ledger σ, l.books.of k = s → (l.post k records).1 = .unwound) := by
  intro a names fits
  have distinct := nodup_entries a
  have takes_iff : s.takes a.entries = true ↔ fits := Store.takes_iff distinct
  have accepts_eq {l : Ledger σ} (of_kind : l.books.of k = s) :
      l.accepts k records = s.takes a.entries := by rw [Ledger.accepts, of_kind]
  refine ⟨distinct, fun name amount => mem_entries, ?_, ?_, ?_, ?_,
    size_le_length_entries records, length_entries_le a, ?_⟩
  · intro category counter value found
    split
    · rename_i zero
      rw [List.count_eq_zero]
      intro written
      obtain ⟨⟨name, amount⟩, entry, same⟩ := List.mem_map.1 written
      obtain ⟨category', counter', found', some, rfl⟩ := mem_entries.1 entry
      obtain ⟨rfl, rfl⟩ :=
        counterName_inj (mem_names_of_value? found') (mem_names_of_value? found) same
      rw [found] at found'
      exact some ((Option.some.inj found').symm.trans zero)
    · rename_i some
      refine List.count_eq_one_of_mem distinct ?_
      exact List.mem_map_of_mem (mem_entries.2 ⟨category, counter, found, some, rfl⟩)
  · intro all name amount entry
    refine Store.get?_addAll_of_mem distinct ?_
    rwa [Store.takes_iff_taken_eq.1 (takes_iff.2 all)]
  · intro name other
    exact Store.get?_addAll_of_notMem other
  · intro all
    have taken := takes_iff.2 all
    refine ⟨Store.calls_addAll_of_takes taken, fun l of_kind => ?_⟩
    rw [Ledger.post, Ledger.postTo_of_accepts _ ((accepts_eq of_kind).trans taken)]
    exact ⟨_, rfl, rfl⟩
  · intro unfit
    have refused : s.takes a.entries = false := Bool.eq_false_iff.2 (takes_iff.not.2 unfit)
    obtain ⟨front, entry, part, too_much, taken, emit_eq⟩ := exists_front refused
    have part_distinct : (front.map Prod.fst).Nodup :=
      (((List.prefix_append front [entry]).trans part).sublist.map Prod.fst).nodup distinct
    rw [emit_eq]
    refine ⟨front, entry, part, too_much, Store.calls_addAll_of_takes taken,
      fun name amount there => Store.get?_addAll_of_mem part_distinct ?_,
      fun name other => Store.get?_addAll_of_notMem other, fun l of_kind => ?_⟩
    · rwa [Store.takes_iff_taken_eq.1 taken]
    · rw [Ledger.post, Ledger.postTo_of_refused _ ((accepts_eq of_kind).trans refused)]

/-- A category may be called like a counter of another one. -/
theorem written_once_of_dots :
    let short : Record .runner := { taskClass := "a", state := .success }
    let long : Record .runner := { taskClass := "a.numAll", state := .success }
    let s := Store.empty.addAll [("a.numAll.numAll", 5)]
    let after := (ofRecords [short, long]).emit s
    after.get? "a.numAll" = some 1 ∧ after.get? "a.numAll.numAll" = some 6 ∧ after.calls = 3 := by
  intro short long s after
  obtain ⟨-, mem_iff, -, grown, -, counted, -⟩ := written_once Unit [short, long] s
  have fits : ∀ entry ∈ (ofRecords [short, long]).entries,
      Signed64.Fits (s.total entry.1 + entry.2) := by
    decide
  have of_short : ("a.numAll", 1) ∈ (ofRecords [short, long]).entries :=
    (mem_iff _ _).2 ⟨"a", "numAll", by decide, by decide, by decide⟩
  have of_long : ("a.numAll.numAll", 1) ∈ (ofRecords [short, long]).entries :=
    (mem_iff _ _).2 ⟨"a.numAll", "numAll", by decide, by decide, by decide⟩
  refine ⟨?_, ?_, ?_⟩
  · have none : s.total "a.numAll" = 0 := by decide
    have total := grown fits _ _ of_short
    rw [none] at total
    exact total
  · have five : s.total "a.numAll.numAll" = 5 := by decide
    have total := grown fits _ _ of_long
    rw [five] at total
    exact total
  · have two : (ofRecords [short, long]).entries.length = 2 := by decide
    have calls := (counted fits).1
    rw [two] at calls
    exact calls

end Aggregation

end TaskLedger
