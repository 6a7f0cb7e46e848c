import Mathlib
import TaskLedger.Proofs.Tally.Sums
import TaskLedger.Trial.Audit
import TaskLedger.Trial.Basic

/-!
# The counters of a trial

The statistics of a trial have the counters of both kinds in one map, under names that begin with
the kind.  They are picked by the beginnings and the ends of these names, and added up.

* `RunStatistics.sum_picked`: a sum over the map is a sum over either store;
* `picks_counted` and `picks_failures`: no category has a name by which one counter is taken for
  another one;
* `RunStatistics.counted_eq` and `RunStatistics.failures_eq`: what the sums are if the stores hold
  the counters of some records.
-/

namespace TaskLedger

/-! ### Both stores in one map -/

/-- A map of entries under different names has these entries. -/
theorem perm_toList_ofList {α : Type} {entries : List (String × α)}
    (distinct : entries.Pairwise fun a b => a.1 ≠ b.1) :
    (Std.TreeMap.ofList entries).toList.Perm entries := by
  have differ : entries.Pairwise fun a b => ¬ compare a.1 b.1 = .eq :=
    distinct.imp fun apart same => apart (Std.compare_eq_iff_eq.1 same)
  refine (List.perm_ext_iff_of_nodup ?_ ?_).2 fun entry => ?_
  · refine List.Pairwise.imp ?_ Std.TreeMap.distinct_keys_toList
    rintro a b apart rfl
    exact apart Std.ReflCmp.compare_self
  · refine distinct.imp ?_
    rintro a b apart rfl
    exact apart rfl
  · obtain ⟨key, value⟩ := entry
    rw [Std.TreeMap.mem_toList_iff_getElem?_eq_some]
    constructor
    · intro found
      by_cases there : key ∈ entries.map Prod.fst
      · obtain ⟨⟨_, other⟩, mem, rfl⟩ := List.mem_map.1 there
        rw [Std.TreeMap.getElem?_ofList_of_mem Std.ReflCmp.compare_self differ mem] at found
        cases found
        exact mem
      · rw [Std.TreeMap.getElem?_ofList_of_contains_eq_false] at found
        · cases found
        · rwa [List.contains_eq_mem, decide_eq_false_iff_not]
    · exact Std.TreeMap.getElem?_ofList_of_mem Std.ReflCmp.compare_self differ

namespace Trial

/-- The names of a kind do not begin like those of the other one. -/
theorem counterName_ne {j k : Kind} (h : j ≠ k) (name other : String) :
    counterName j name ≠ counterName k other := by
  intro same
  have heads := congrArg (fun s : String => s.toList.head?) same
  cases j <;> cases k <;> simp [counterName, Kind.name] at h heads

theorem counterName_inj {k : Kind} {name other : String}
    (same : counterName k name = counterName k other) : name = other := by
  have lists := congrArg String.toList same
  simp only [counterName, String.toList_append, List.append_assoc] at lists
  exact String.toList_inj.1 (List.append_cancel_left (List.append_cancel_left lists))

/-- The counters of a kind by their names in the statistics. -/
def entriesOf (books : Books) (k : Kind) : List (String × Int) :=
  (books.of k).toList.map fun entry => (counterName k entry.1, entry.2)

theorem distinct_entriesOf (books : Books) (k : Kind) :
    (entriesOf books k).Pairwise fun a b => a.1 ≠ b.1 := by
  refine List.pairwise_map.2 (Std.TreeMap.distinct_keys_toList.imp fun differ same => ?_)
  exact differ (Std.compare_eq_iff_eq.2 (counterName_inj same))

theorem perm_toList_counters (books : Books) :
    (counters books).toList.Perm (entriesOf books .runner ++ entriesOf books .croner) := by
  have whole : counters books =
      Std.TreeMap.ofList (entriesOf books .runner ++ entriesOf books .croner) := by
    unfold counters entriesOf Kind.all
    simp
  rw [whole]
  refine perm_toList_ofList (List.pairwise_append.2
    ⟨distinct_entriesOf books .runner, distinct_entriesOf books .croner, fun a ha b hb => ?_⟩)
  obtain ⟨_, -, rfl⟩ := List.mem_map.1 ha
  obtain ⟨_, -, rfl⟩ := List.mem_map.1 hb
  exact counterName_ne Kind.noConfusion _ _

theorem writtenWhere_entriesOf (p : String → Bool) (books : Books) (k : Kind) :
    writtenWhere p (entriesOf books k) =
      (books.of k).sumWhere fun name => p (counterName k name) := by
  unfold writtenWhere entriesOf
  rw [List.map_map]
  rfl

end Trial

namespace RunStatistics

variable {s : RunStatistics} {books : Books}

theorem sum_filter_eq_writtenWhere (p : String → Bool) (entries : List (String × Int)) :
    ((entries.filter fun entry => p entry.1).map (·.2)).sum = writtenWhere p entries := by
  rw [writtenWhere, List.sum_map_ite, List.sum_map_zero, add_zero]
  simp only [Bool.decide_eq_true]

/-- A sum over the counters of both kinds is a sum over either store. -/
theorem sum_picked (h : s.counters = Trial.counters books) (p : List Char → Bool) :
    (s.picked p).sum =
      ((books.of .runner).sumWhere fun name => p (Trial.counterName .runner name).toList) +
      ((books.of .croner).sumWhere fun name => p (Trial.counterName .croner name).toList) := by
  rw [picked, h, sum_filter_eq_writtenWhere fun name => p name.toList,
    writtenWhere_perm (Trial.perm_toList_counters books), writtenWhere_append,
    Trial.writtenWhere_entriesOf, Trial.writtenWhere_entriesOf]

/-- A counter that is picked is the total under some name of either store. -/
theorem exists_of_mem_picked (h : s.counters = Trial.counters books) {p : List Char → Bool}
    {value : Int} (picked : value ∈ s.picked p) : ∃ k name,
      p (Trial.counterName k name).toList = true ∧ (books.of k).total name = value := by
  obtain ⟨⟨_, _⟩, kept, rfl⟩ := List.mem_map.1 picked
  obtain ⟨there, meant⟩ := List.mem_filter.1 kept
  rw [h] at there
  rcases List.mem_append.1 ((Trial.perm_toList_counters books).mem_iff.1 there) with mem | mem
  all_goals
    obtain ⟨⟨name, total⟩, stored, same⟩ := List.mem_map.1 mem
    obtain ⟨rfl, rfl⟩ := Prod.mk.inj same
    refine ⟨_, name, meant, ?_⟩
    rw [Store.total, Store.mem_toList.1 stored, Option.getD_some]

end RunStatistics

/-! ### Beginnings and ends of names -/

/-- A name ends with a counter if it is one of that counter. -/
theorem isSuffixOf_iff {front counter other : List Char} (hc : '.' ∉ counter) (ho : '.' ∉ other) :
    ('.' :: counter).isSuffixOf (front ++ '.' :: other) = true ↔ other = counter := by
  rw [List.isSuffixOf_iff_suffix]
  constructor
  · rintro ⟨rest, same⟩
    exact (append_dot_inj hc ho same).2.symm
  · rintro rfl
    exact List.suffix_append _ _

/-- The beginning of the names of a kind. -/
theorem isPrefixOf_counterName (j k : Kind) (name : String) :
    (k.name ++ ".").toList.isPrefixOf (Trial.counterName j name).toList = decide (j = k) := by
  cases j <;> cases k <;> simp [Trial.counterName, Kind.name, List.isPrefixOf]

/-- The end of the names of a counter, whatever the category is called. -/
theorem isSuffixOf_counterName {ending counter : String}
    (spelled : ending.toList = '.' :: counter.toList) (plain : '.' ∉ counter.toList) (k : Kind)
    (category : String) {other : String} (h : other ∈ (Scheme.of k).names) :
    ending.toList.isSuffixOf
      (Trial.counterName k (Aggregation.counterName category other)).toList = true ↔
        other = counter := by
  have name_eq : (Trial.counterName k (Aggregation.counterName category other)).toList =
      (k.name.toList ++ '.' :: category.toList) ++ '.' :: other.toList := by
    simp [Trial.counterName, Aggregation.counterName]
  rw [spelled, name_eq, isSuffixOf_iff plain (dot_notMem_of_mem_names h), String.toList_inj]

theorem spelled_failureEnding :
    RunStatistics.failureEnding.toList = '.' :: "numFail".toList := by
  decide

/-- The failures of a kind are found by the ends of the names. -/
theorem picks_failures (k : Kind) : Scheme.Picks k "numFail" fun name =>
    RunStatistics.failureEnding.toList.isSuffixOf (Trial.counterName k name).toList :=
  fun category _ ho =>
    isSuffixOf_counterName spelled_failureEnding (by decide) k category ho

/-- All records of a kind are found by the beginnings and the ends of the names. -/
theorem picks_counted (k : Kind) : Scheme.Picks k "numAll" fun name =>
    (k.name ++ ".").toList.isPrefixOf (Trial.counterName k name).toList &&
      ".numAll".toList.isSuffixOf (Trial.counterName k name).toList := by
  intro category other ho
  show ((k.name ++ ".").toList.isPrefixOf (Trial.counterName k _).toList && _) = true ↔ _
  rw [isPrefixOf_counterName, decide_eq_true rfl, Bool.true_and]
  exact isSuffixOf_counterName (by decide) (by decide) k category ho

namespace RunStatistics

variable {s : RunStatistics} {books : Books} {posted : (k : Kind) → List (Record k)}

/-- The counters of a kind that count all records are found in its store only. -/
theorem counted_eq_sumWhere (h : s.counters = Trial.counters books) (k : Kind) : s.counted k =
    (books.of k).sumWhere fun name =>
      (k.name ++ ".").toList.isPrefixOf (Trial.counterName k name).toList &&
        ".numAll".toList.isSuffixOf (Trial.counterName k name).toList := by
  have apart : ∀ j, j ≠ k → ((books.of j).sumWhere fun name =>
      (k.name ++ ".").toList.isPrefixOf (Trial.counterName j name).toList &&
        ".numAll".toList.isSuffixOf (Trial.counterName j name).toList) = 0 := by
    intro j differ
    simp only [isPrefixOf_counterName, decide_eq_false differ, Bool.false_and]
    exact List.sum_eq_zero (by simp)
  unfold counted
  rw [← List.sum_eq_foldl, sum_picked h]
  cases k with
  | runner => rw [apart .croner Kind.noConfusion, add_zero]
  | croner => rw [apart .runner Kind.noConfusion, zero_add]

/-- All records of a kind are counted. -/
theorem counted_eq (h : s.counters = Trial.counters books)
    (tallies : ∀ k, (books.of k).Tallies k (posted k)) (k : Kind) :
    s.counted k = (posted k).length := by
  have sums := tallies k _ _ (Scheme.all_mem k) (picks_counted k)
  rw [List.countP_true] at sums
  rw [counted_eq_sumWhere h, sums.sum_eq]

/-- How many records of both kinds are no success. -/
def failed (posted : (k : Kind) → List (Record k)) : Nat :=
  (posted .runner).countP (fun r => !r.succeeded) + (posted .croner).countP fun r => !r.succeeded

/-- All failures are counted, whatever the categories are called, as far as 64 bits reach. -/
theorem failures_eq (h : s.counters = Trial.counters books)
    (tallies : ∀ k, (books.of k).Tallies k (posted k)) :
    s.failures = if failed posted < 2 ^ 63 then some (failed posted : Int) else none := by
  have sums (k : Kind) := tallies k _ _ (Scheme.failures_mem k) (picks_failures k)
  have natural : ∀ value ∈ s.picked failureEnding.toList.isSuffixOf, 0 ≤ value := by
    intro value there
    obtain ⟨k, name, meant, rfl⟩ := exists_of_mem_picked h there
    exact (sums k).nonneg name meant
  have sum_eq : (s.picked failureEnding.toList.isSuffixOf).sum = (failed posted : Int) := by
    rw [sum_picked h, (sums .runner).sum_eq, (sums .croner).sum_eq, failed, Nat.cast_add]
  rw [failures, Signed64.sum?_of_nonneg natural, sum_eq, Signed64.greatest]
  split_ifs <;> first | rfl | omega

end RunStatistics

end TaskLedger
