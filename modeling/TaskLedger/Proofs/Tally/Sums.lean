import Mathlib
import TaskLedger.Proofs.Tally.Entries

/-!
# Sums over many names

A store holds the counters of all categories under names of their own.  Added up over the names
with some property, its totals are what was written under these names.  The sum may be greater than
what fits into 64 bits, since it belongs to no single name.

* `Store.sumWhere` adds up totals, and `Store.sumWhere_of_add?` is how a write changes the sum;
* `Store.Sums` says what a sum is, and is kept up by `Store.Sums.addAll`;
* `Scheme.Picks`: a property that only the names of one counter have; the counters of a batch under
  these names are those of all its records, whatever the categories are called
  (`Aggregation.writtenWhere_entries`);
* `Store.Tallies`: what a store holds after some batches, kept up by `Store.Tallies.emit`.
-/

namespace TaskLedger

variable {k : Kind} {p : String → Bool}

/-! ### Stores -/

theorem writtenWhere_perm {entries more : List (String × Int)} (h : entries.Perm more) :
    writtenWhere p entries = writtenWhere p more :=
  (h.map _).sum_eq

/-- The entries with a name, and all others. -/
theorem writtenWhere_eq_add (name : String) (entries : List (String × Int)) :
    writtenWhere p entries = (if p name then written entries name else 0) +
      writtenWhere p (entries.filter fun entry => entry.1 ≠ name) := by
  induction entries with
  | nil => simp [written, writtenWhere]
  | cons entry entries ih =>
    have head : ∀ rest : List (String × Int), writtenWhere p (entry :: rest) =
        (if p entry.1 then entry.2 else 0) + writtenWhere p rest := fun rest => rfl
    have under : written (entry :: entries) name =
        (if entry.1 = name then entry.2 else 0) + written entries name := rfl
    rw [head, ih, under]
    by_cases same : entry.1 = name
    · rw [List.filter_cons_of_neg (by simpa using same), if_pos same, same]
      split_ifs <;> omega
    · rw [List.filter_cons_of_pos (by simpa using same), if_neg same, head]
      split_ifs <;> omega

namespace Store

/-- The sum of the totals under the names with a property. -/
def sumWhere (p : String → Bool) (s : Store) : Int :=
  writtenWhere p s.toList

theorem mem_toList {s : Store} {name : String} {total : Int} :
    (name, total) ∈ s.toList ↔ s.get? name = some total :=
  Std.TreeMap.mem_toList_iff_getElem?_eq_some

/-- The total under a name, read off the list of all totals. -/
theorem written_toList (s : Store) (name : String) : written s.toList name = s.total name := by
  have distinct : s.toList.Pairwise fun p q => p.1 ≠ q.1 :=
    Std.TreeMap.distinct_keys_toList.imp fun differ same =>
      differ (Std.compare_eq_iff_eq.2 same)
  unfold total
  cases found : s.get? name with
  | none =>
    refine sum_of_notMem (f := id) fun entry he same => ?_
    rw [← same, mem_toList.1 he] at found
    cases found
  | some value => exact sum_of_mem (f := id) distinct (mem_toList.2 found)

/-- The totals under other names. -/
def others (p : String → Bool) (s : Store) (name : String) : Int :=
  writtenWhere p (s.toList.filter fun entry => entry.1 ≠ name)

theorem sumWhere_eq (s : Store) (name : String) :
    s.sumWhere p = (if p name then s.total name else 0) + s.others p name := by
  rw [sumWhere, writtenWhere_eq_add name, written_toList]
  rfl

/-- A write replaces the total under its name, and no other one. -/
theorem sumWhere_of_add? {s next : Store} {name : String} {delta : Int}
    (added : s.add? name delta = some next) :
    next.sumWhere p = (if p name then s.total name + delta else 0) + s.others p name := by
  obtain ⟨-, rfl⟩ := of_add? added
  have perm : (toList ⟨s.totals.insert name (s.total name + delta), s.calls + 1⟩).Perm
      ((name, s.total name + delta) :: s.toList.filter fun entry => entry.1 ≠ name) := by
    refine Std.TreeMap.toList_insert_perm.trans (.of_eq ?_)
    congr 1
    refine List.filter_congr fun entry _ => ?_
    by_cases same : entry.1 = name
    · simp [same]
    · simp [same, Ne.symm same]
  rw [sumWhere, writtenWhere_perm perm]
  rfl

/-- The totals under the names with a property add up to a number, and none of them is negative. -/
structure Sums (p : String → Bool) (s : Store) (sum : Int) : Prop where
  sum_eq : s.sumWhere p = sum
  nonneg : ∀ name, p name → 0 ≤ s.total name

namespace Sums

variable {s next : Store} {sum : Int}

theorem empty (p : String → Bool) : Sums p .empty 0 where
  sum_eq := rfl
  nonneg name _ := by rw [total_empty]

/-- A write under a name with the property adds to the sum, any other one leaves it alone. -/
theorem add (h : Sums p s sum) {name : String} {delta : Int}
    (added : s.add? name delta = some next) (natural : p name → 0 ≤ delta) :
    Sums p next (sum + if p name then delta else 0) := by
  have before := s.sumWhere_eq (p := p) name
  rw [h.sum_eq] at before
  refine ⟨?_, fun other meant => ?_⟩
  · rw [sumWhere_of_add? added, before]
    split
    · omega
    · omega
  · rw [total_of_add? added]
    split
    · rename_i same
      subst same
      exact add_nonneg (h.nonneg name meant) (natural meant)
    · exact h.nonneg other meant

theorem addAll (h : Sums p s sum) {entries : List (String × Int)}
    (all : s.takes entries = true) (natural : ∀ entry ∈ entries, p entry.1 → 0 ≤ entry.2) :
    Sums p (s.addAll entries) (sum + writtenWhere p entries) := by
  induction entries generalizing s sum with
  | nil =>
    have nothing : writtenWhere p [] = 0 := rfl
    rw [nothing, add_zero]
    exact h
  | cons entry entries ih =>
    cases added : s.add? entry.1 entry.2 with
    | none =>
      rw [takes_cons_of_none added] at all
      cases all
    | some next =>
      rw [takes_cons_of_some added] at all
      have now := h.add added (natural entry List.mem_cons_self)
      have rest := ih now all fun other later => natural other (List.mem_cons_of_mem _ later)
      rw [add_assoc] at rest
      rw [addAll_cons_of_some added]
      exact rest

end Sums

end Store

/-! ### The counters of a batch -/

/-- A property of the names of one counter, whatever the category is called. -/
def Scheme.Picks (k : Kind) (counter : String) (p : String → Bool) : Prop :=
  ∀ category, ∀ other ∈ (of k).names,
    p (Aggregation.counterName category other) = true ↔ other = counter

namespace Aggregation

variable {count : Count (Record k)}

/-- What a batch writes under the names of a counter is what the counter says of all its records. -/
theorem writtenWhere_entries (picks : Scheme.Picks k count.name p)
    (h : count ∈ (Scheme.of k).counts) (records : List (Record k)) :
    writtenWhere p (ofRecords records).entries = (records.countP count.counts : Int) := by
  obtain ⟨slot, found⟩ := List.getElem?_of_mem (Scheme.count_mem_names h)
  rw [entries, writtenWhere_flatMap, ← sum_value?_count records h]
  refine congrArg List.sum (List.map_congr_left fun entry he => ?_)
  rw [writtenWhere_bucketEntries, value?_eq _ entry.1 found, mem_toList.1 he, Option.bind_some,
    ← sum_zip_names found]
  refine congrArg List.sum (List.map_congr_left fun pair hp => ?_)
  simp only [picks entry.1 pair.1 (List.of_mem_zip hp).1]

/-- A batch writes nothing negative under the names of a counter. -/
theorem natural_entries (picks : Scheme.Picks k count.name p)
    (h : count ∈ (Scheme.of k).counts) (records : List (Record k)) :
    ∀ entry ∈ (ofRecords records).entries, p entry.1 → 0 ≤ entry.2 := by
  intro entry he meant
  obtain ⟨category, counter, value, -, name_eq⟩ := mem_entries.1 he
  rw [← name_eq, picks category counter (mem_names_of_value? value)] at meant
  subst meant
  exact nonneg_of_count h value

end Aggregation

/-- A batch adds its records to a sum. -/
theorem Store.Sums.emit {s : Store} {sum : Int} {count : Count (Record k)} (h : Sums p s sum)
    (picks : Scheme.Picks k count.name p) (counts : count ∈ (Scheme.of k).counts)
    {records : List (Record k)}
    (all : s.takes (Aggregation.ofRecords records).entries = true) :
    Sums p ((Aggregation.ofRecords records).emit s)
      (sum + (records.countP count.counts : Int)) := by
  rw [← Aggregation.writtenWhere_entries picks counts records]
  exact h.addAll all (Aggregation.natural_entries picks counts records)

/-- A store of a kind holds under the names of every counter, all in all, what the counter says of
some records. -/
def Store.Tallies (k : Kind) (s : Store) (records : List (Record k)) : Prop :=
  ∀ p, ∀ count ∈ (Scheme.of k).counts, Scheme.Picks k count.name p →
    s.Sums p (records.countP count.counts : Int)

theorem Store.tallies_empty (k : Kind) : Store.empty.Tallies k [] :=
  fun p _ _ _ => Sums.empty p

theorem Store.Tallies.emit {s : Store} {records : List (Record k)} (h : s.Tallies k records)
    {more : List (Record k)} (all : s.takes (Aggregation.ofRecords more).entries = true) :
    ((Aggregation.ofRecords more).emit s).Tallies k (records ++ more) := by
  intro p count counts picks
  rw [List.countP_append, Nat.cast_add]
  exact (h p count counts picks).emit picks counts all

end TaskLedger
