import Mathlib
import TaskLedger.Tally.Aggregation

/-!
# What records amount to

A record adds an amount to every counter of its category, and to nothing else.  As long as the
milliseconds of every phase stay in range, the counters of a batch are exact sums of amounts, so it
makes no difference in how many batches the records come.

* `Scheme.amounts`: the exact counters of some records of one category;
* `Bucket.counts_addAll`, `times_addAll` and `next_addAll`: what the records of a category leave in
  its bucket, also where a sum of milliseconds is cut off;
* `Modest`: milliseconds stay in range, whatever part of the records is added up;
* `get?_ofRecords` and `values_addAll`: the bucket of a category holds the amounts of its records;
* `counterName_inj`: a name tells which counter of which category is meant;
* `Aggregation.written`: what a batch writes under a name; `written_of_counter` is the counter.
-/

namespace TaskLedger

variable {ρ : Type} {k : Kind}

/-! ### One category -/

/-- The sum of some numbers from left to right, which stays in range at every step. -/
def Signed64.sum (amounts : List Int) : Int :=
  amounts.foldl (fun sum amount => saturate (sum + amount)) 0

theorem Signed64.sum_concat (amounts : List Int) (amount : Int) :
    Signed64.sum (amounts ++ [amount]) = saturate (Signed64.sum amounts + amount) := by
  rw [Signed64.sum, List.foldl_append]
  rfl

theorem Signed64.fits_sum (amounts : List Int) : Fits (Signed64.sum amounts) := by
  induction amounts using List.reverseRecOn with
  | nil => exact ⟨by decide, by decide⟩
  | append_singleton amounts amount _ =>
    rw [sum_concat]
    exact fits_saturate _

/-- Nothing is cut off as long as no sum on the way leaves the range. -/
theorem Signed64.sum_eq {amounts : List Int} (h : ∀ front, front <+: amounts → Fits front.sum) :
    Signed64.sum amounts = amounts.sum := by
  induction amounts using List.reverseRecOn with
  | nil => rfl
  | append_singleton amounts amount ih =>
    have before := ih fun front hf => h front (hf.trans (List.prefix_append _ _))
    have now := h _ List.prefix_rfl
    rw [List.sum_append, List.sum_singleton] at now ⊢
    rw [sum_concat, before, saturate_of_fits now]

/-- The milliseconds of a phase in a record, none if they are unknown. -/
def Phase.amount (phase : Phase ρ) (r : ρ) : Int :=
  (phase.millis r).getD 0

/-- Records whose milliseconds are unknown add nothing. -/
theorem Phase.sum_millis (phase : Phase ρ) (records : List ρ) :
    (records.filterMap phase.millis).sum = (records.map phase.amount).sum := by
  induction records with
  | nil => rfl
  | cons r records ih =>
    rw [List.map_cons, List.sum_cons, ← ih, amount]
    cases hm : phase.millis r <;> simp [hm]

theorem Phase.sum_natAbs_millis (phase : Phase ρ) (records : List ρ) :
    ((records.filterMap phase.millis).map Int.natAbs).sum =
      (records.map fun r => (phase.amount r).natAbs).sum := by
  induction records with
  | nil => rfl
  | cons r records ih =>
    rw [List.map_cons, List.sum_cons, ← ih, amount]
    cases hm : phase.millis r <;> simp [hm]

/-- The exact counters of some records of one category, in the order of their names. -/
def Scheme.amounts (scheme : Scheme ρ) (records : List ρ) : List Int :=
  scheme.counts.map (fun count => (records.countP count.counts : Int)) ++
    scheme.phases.map fun phase => (records.map phase.amount).sum

/-- The milliseconds of every phase stay in range, whatever part of the records is added up. -/
def Scheme.Modest (scheme : Scheme ρ) (records : List ρ) : Prop :=
  ∀ phase ∈ scheme.phases, (records.map fun r => (phase.amount r).natAbs).sum < 2 ^ 63

theorem Scheme.Modest.sublist {scheme : Scheme ρ} {rs ss : List ρ} (h : scheme.Modest ss)
    (sub : rs.Sublist ss) : scheme.Modest rs := by
  intro phase hp
  refine Nat.lt_of_le_of_lt ?_ (h phase hp)
  exact (sub.map _).sum_le_sum (fun _ _ => Nat.zero_le _)

theorem natAbs_sum_le (amounts : List Int) :
    amounts.sum.natAbs ≤ (amounts.map Int.natAbs).sum := by
  induction amounts with
  | nil => exact Nat.le_refl _
  | cons amount amounts ih =>
    rw [List.sum_cons, List.map_cons, List.sum_cons]
    exact (Int.natAbs_add_le _ _).trans (Nat.add_le_add_left ih _)

theorem Scheme.Modest.fits {scheme : Scheme ρ} {rs : List ρ} (h : scheme.Modest rs)
    {phase : Phase ρ} (hp : phase ∈ scheme.phases) :
    Signed64.Fits (rs.map phase.amount).sum := by
  have bound := natAbs_sum_le (rs.map phase.amount)
  have small := h phase hp
  rw [List.map_map] at bound
  have bound : (rs.map phase.amount).sum.natAbs < 2 ^ 63 := Nat.lt_of_le_of_lt bound small
  simp only [Signed64.Fits, Signed64.least, Signed64.greatest]
  omega

theorem Scheme.length_amounts (scheme : Scheme ρ) (records : List ρ) :
    (scheme.amounts records).length = scheme.names.length := by
  simp [amounts, names]

/-- No record amounts to nothing. -/
theorem Scheme.amounts_nil (scheme : Scheme ρ) (slot : Nat) :
    (scheme.amounts [])[slot]?.getD 0 = 0 := by
  cases ha : (scheme.amounts [])[slot]? with
  | none => rfl
  | some amount =>
    rcases List.mem_append.1 (List.mem_of_getElem? ha) with count | phase
    · obtain ⟨-, -, rfl⟩ := List.mem_map.1 count
      rfl
    · obtain ⟨-, -, rfl⟩ := List.mem_map.1 phase
      rfl

theorem Scheme.amounts_append (scheme : Scheme ρ) (rs ss : List ρ) :
    scheme.amounts (rs ++ ss) =
      List.zipWith (· + ·) (scheme.amounts rs) (scheme.amounts ss) := by
  simp only [amounts]
  rw [List.zipWith_append (by simp), List.zipWith_map, List.zipWith_map, List.zipWith_self,
    List.zipWith_self]
  simp

namespace Bucket

/-- The counters after the given records. -/
def addAll (scheme : Scheme ρ) (b : Bucket) (records : List ρ) : Bucket :=
  records.foldl (add scheme) b

theorem addAll_concat (scheme : Scheme ρ) (b : Bucket) (records : List ρ) (r : ρ) :
    b.addAll scheme (records ++ [r]) = (b.addAll scheme records).add scheme r := by
  rw [addAll, List.foldl_append]
  rfl

/-- Every counter of records counts the records that it is meant for. -/
theorem counts_addAll (scheme : Scheme ρ) (records : List ρ) :
    ((zero scheme).addAll scheme records).counts =
      scheme.counts.map fun count => (records.countP count.counts : Int) := by
  induction records using List.reverseRecOn with
  | nil => simp [addAll, zero]
  | append_singleton records r ih =>
    rw [addAll_concat, add, ih, List.zipWith_map_right, List.zipWith_self]
    refine List.map_congr_left fun count _ => ?_
    rw [List.countP_append, List.countP_singleton]
    split <;> simp

/-- Every counter of milliseconds adds up those of the records that have some. -/
theorem times_addAll (scheme : Scheme ρ) (records : List ρ) :
    ((zero scheme).addAll scheme records).times =
      scheme.phases.map fun phase => Signed64.sum (records.filterMap phase.millis) := by
  induction records using List.reverseRecOn with
  | nil => simp [addAll, zero, Signed64.sum]
  | append_singleton records r ih =>
    rw [addAll_concat, add, ih, List.zipWith_map_right, List.zipWith_self]
    refine List.map_congr_left fun phase _ => ?_
    rw [List.filterMap_append]
    cases hm : phase.millis r with
    | none => simp [hm, addMillis]
    | some millis => simp [hm, addMillis, Signed64.sum_concat]

/-- The next run is that of the last record, also if it has none. -/
theorem next_addAll (scheme : Scheme ρ) (records : List ρ) :
    ((zero scheme).addAll scheme records).next = records.getLast?.bind scheme.next := by
  induction records using List.reverseRecOn with
  | nil => rfl
  | append_singleton records r _ =>
    rw [addAll_concat, List.getLast?_concat]
    rfl

/-- The counters of a category are exact as long as milliseconds stay in range. -/
theorem values_addAll {scheme : Scheme ρ} {records : List ρ} (h : scheme.Modest records) :
    ((zero scheme).addAll scheme records).values = scheme.amounts records := by
  rw [values, counts_addAll, times_addAll, Scheme.amounts]
  refine congrArg (_ ++ ·) (List.map_congr_left fun phase hp => ?_)
  rw [← Phase.sum_millis]
  refine Signed64.sum_eq fun front hf => ?_
  -- the sum of a part is no further from zero than the sum of all absolute amounts
  have part := (hf.sublist.map Int.natAbs).sum_le_sum fun _ _ => Nat.zero_le _
  have bound := natAbs_sum_le front
  have small := h phase hp
  rw [← Phase.sum_natAbs_millis] at small
  simp only [Signed64.Fits, Signed64.least, Signed64.greatest]
  omega

end Bucket

/-! ### Names -/

/-- A name is cut at its last dot. -/
theorem append_dot_inj {a b c d : List Char} (hb : '.' ∉ b) (hd : '.' ∉ d)
    (h : a ++ '.' :: b = c ++ '.' :: d) : a = c ∧ b = d := by
  -- if the dots stood in different places, the first one would be left of the second one
  rcases List.append_eq_append_iff.1 h with ⟨e, rfl, he⟩ | ⟨e, rfl, he⟩
  · cases e with
    | nil => exact ⟨(List.append_nil a).symm, (List.cons.inj he).2⟩
    | cons x e =>
      obtain ⟨rfl, rfl⟩ := List.cons.inj he
      exact absurd (List.mem_append_right _ List.mem_cons_self) hb
  · cases e with
    | nil => exact ⟨List.append_nil c, (List.cons.inj he).2.symm⟩
    | cons x e =>
      obtain ⟨rfl, rfl⟩ := List.cons.inj he
      exact absurd (List.mem_append_right _ List.mem_cons_self) hd

/-- No counter has a dot in its name. -/
theorem dot_notMem_of_mem_names {counter : String} (h : counter ∈ (Scheme.of k).names) :
    '.' ∉ counter.toList := by
  have all : ∀ counter ∈ (Scheme.of k).names, '.' ∉ counter.toList := by cases k <;> decide
  exact all counter h

/-- A name tells which counter of which category is meant, whatever the category is called. -/
theorem counterName_inj {j : Kind} {category category' counter counter' : String}
    (h : counter ∈ (Scheme.of k).names) (h' : counter' ∈ (Scheme.of j).names)
    (same : Aggregation.counterName category counter = Aggregation.counterName category' counter') :
    category = category' ∧ counter = counter' := by
  have lists := congrArg String.toList same
  simp only [Aggregation.counterName, String.toList_append, List.append_assoc] at lists
  obtain ⟨left, right⟩ :=
    append_dot_inj (dot_notMem_of_mem_names h) (dot_notMem_of_mem_names h') lists
  exact ⟨String.toList_inj.1 left, String.toList_inj.1 right⟩

/-! ### One batch -/

namespace Aggregation

/-- The bucket of a category counts the records of that category. -/
theorem get?_ofRecords (records : List (Record k)) (category : String) :
    (ofRecords records).get? category =
      if (records.filter (·.key = category)) = [] then none
      else some ((Bucket.zero (.of k)).addAll (.of k) (records.filter (·.key = category))) := by
  induction records using List.reverseRecOn with
  | nil => exact get?_empty category
  | append_singleton records r ih =>
    rw [ofRecords_append_singleton, get?_observe, List.filter_append]
    by_cases same : r.key = category
    · subst same
      have one : [r].filter (·.key = r.key) = [r] := by simp
      have more : records.filter (·.key = r.key) ++ [r] ≠ [] :=
        List.append_ne_nil_of_right_ne_nil _ (List.cons_ne_nil _ _)
      rw [ih, if_pos rfl, one, if_neg more, Bucket.addAll_concat]
      split
      · rename_i nothing
        rw [nothing]
        rfl
      · rfl
    · rw [if_neg same, ih]
      simp [same]

end Aggregation

/-! ### Sums over keys -/

section Keys

variable {β : Type} {entries : List (String × β)} {key : String} {f : β → Int}

theorem sum_of_notMem (h : ∀ entry ∈ entries, entry.1 ≠ key) :
    (entries.map fun entry => if entry.1 = key then f entry.2 else 0).sum = 0 := by
  refine List.sum_eq_zero fun amount ha => ?_
  obtain ⟨entry, he, rfl⟩ := List.mem_map.1 ha
  exact if_neg (h entry he)

/-- Where no key comes twice, a sum over the entries with a key is that of the only one. -/
theorem sum_of_mem (distinct : entries.Pairwise fun p q => p.1 ≠ q.1) {value : β}
    (h : (key, value) ∈ entries) :
    (entries.map fun entry => if entry.1 = key then f entry.2 else 0).sum = f value := by
  induction entries with
  | nil => cases h
  | cons entry entries ih =>
    obtain ⟨first, rest⟩ := List.pairwise_cons.1 distinct
    rw [List.map_cons, List.sum_cons]
    rcases List.mem_cons.1 h with rfl | later
    · rw [if_pos rfl, sum_of_notMem fun other ho => (first other ho).symm, add_zero]
    · rw [if_neg (first _ later), ih rest later, zero_add]

end Keys

/-! ### What a batch writes -/

/-- What some entries write under the names with a property, all in all. -/
def writtenWhere (p : String → Bool) (entries : List (String × Int)) : Int :=
  (entries.map fun entry => if p entry.1 then entry.2 else 0).sum

theorem writtenWhere_append (p : String → Bool) (entries more : List (String × Int)) :
    writtenWhere p (entries ++ more) = writtenWhere p entries + writtenWhere p more := by
  unfold writtenWhere
  rw [List.map_append, List.sum_append]

theorem writtenWhere_flatMap {β : Type} (p : String → Bool) (parts : List β)
    (f : β → List (String × Int)) :
    writtenWhere p (parts.flatMap f) = (parts.map fun part => writtenWhere p (f part)).sum := by
  induction parts with
  | nil => rfl
  | cons part parts ih =>
    rw [List.flatMap_cons, writtenWhere_append, ih, List.map_cons, List.sum_cons]

/-- What some entries write under a name, all in all. -/
def written (entries : List (String × Int)) (name : String) : Int :=
  (entries.map fun entry => if entry.1 = name then entry.2 else 0).sum

theorem written_eq (entries : List (String × Int)) (name : String) :
    written entries name = writtenWhere (fun other => other = name) entries := by
  unfold written writtenWhere
  simp only [decide_eq_true_eq]

theorem written_flatMap {β : Type} (parts : List β) (f : β → List (String × Int)) (name : String) :
    written (parts.flatMap f) name = (parts.map fun part => written (f part) name).sum := by
  simp only [written_eq, writtenWhere_flatMap]

namespace Aggregation

/-- Skipping zeros changes no sum. -/
theorem writtenWhere_bucketEntries (p : String → Bool) (category : String) (b : Bucket) :
    writtenWhere p (bucketEntries k category b) = ((List.zip (Scheme.of k).names b.values).map
      fun entry => if p (counterName category entry.1) then entry.2 else 0).sum := by
  rw [bucketEntries]
  induction List.zip (Scheme.of k).names b.values with
  | nil => rfl
  | cons entry entries ih =>
    obtain ⟨counter, value⟩ := entry
    rw [List.map_cons, List.sum_cons, ← ih, List.filterMap_cons]
    by_cases zero : value = 0
    · simp [zero]
    · simp [zero, writtenWhere]

theorem written_bucketEntries (category name : String) (b : Bucket) :
    written (bucketEntries k category b) name = ((List.zip (Scheme.of k).names b.values).map
      fun entry => if counterName category entry.1 = name then entry.2 else 0).sum := by
  rw [written_eq, writtenWhere_bucketEntries]
  simp only [decide_eq_true_eq]

/-- A bucket writes under the name of a counter of its own category only. -/
theorem written_bucketEntries_counterName {category counter : String}
    (h : counter ∈ (Scheme.of k).names) (other : String) (b : Bucket) :
    written (bucketEntries k other b) (counterName category counter) =
      if other = category then ((List.zip (Scheme.of k).names b.values).map
        fun entry => if entry.1 = counter then entry.2 else 0).sum else 0 := by
  rw [written_bucketEntries]
  have meant : ∀ entry ∈ List.zip (Scheme.of k).names b.values,
      counterName other entry.1 = counterName category counter ↔
        other = category ∧ entry.1 = counter := by
    intro entry he
    refine ⟨fun same => ?_, fun ⟨left, right⟩ => by rw [left, right]⟩
    exact counterName_inj (List.of_mem_zip he).1 h same
  split
  · rename_i same
    refine congrArg List.sum (List.map_congr_left fun entry he => ?_)
    have meant := (meant entry he).trans (and_iff_right same)
    simp only [meant]
  · rename_i different
    refine List.sum_eq_zero fun amount ha => ?_
    obtain ⟨entry, he, rfl⟩ := List.mem_map.1 ha
    exact if_neg fun same => different ((meant entry he).1 same).1

/-- No counter has two values. -/
theorem distinct_zip_names (values : List Int) :
    (List.zip (Scheme.of k).names values).Pairwise fun p q => p.1 ≠ q.1 := by
  rw [List.pairwise_iff_getElem]
  intro i j hi hj lt same
  rw [List.getElem_zip, List.getElem_zip] at same
  exact Nat.ne_of_lt lt ((Scheme.nodup_names k).getElem_inj_iff.1 same)

/-- The value of a counter, found by its place. -/
theorem sum_zip_names {counter : String} {slot : Nat}
    (found : (Scheme.of k).names[slot]? = some counter) (values : List Int) :
    ((List.zip (Scheme.of k).names values).map
      fun entry => if entry.1 = counter then entry.2 else 0).sum = values[slot]?.getD 0 := by
  obtain ⟨inside, named⟩ := List.getElem?_eq_some_iff.1 found
  cases hv : values[slot]? with
  | some value =>
    refine sum_of_mem (f := id) (distinct_zip_names values) (List.mem_iff_getElem?.2 ⟨slot, ?_⟩)
    exact List.getElem?_zip_eq_some.2 ⟨found, hv⟩
  | none =>
    refine sum_of_notMem (f := id) fun entry he same => ?_
    obtain ⟨i, hi, rfl⟩ := List.getElem_of_mem he
    rw [List.length_zip] at hi
    rw [List.getElem_zip, ← named] at same
    have here : i = slot := (Scheme.nodup_names k).getElem_inj_iff.1 same
    have outside := List.getElem?_eq_none_iff.1 hv
    omega

/-- The value of a counter by its place. -/
theorem value?_eq (a : Aggregation k) (category : String) {counter : String} {slot : Nat}
    (found : (Scheme.of k).names[slot]? = some counter) :
    a.value? category counter = (a.get? category).bind fun b => b.values[slot]? := by
  obtain ⟨inside, rfl⟩ := List.getElem?_eq_some_iff.1 found
  have place : (Scheme.of k).names.findIdx? (· == (Scheme.of k).names[slot]) = some slot := by
    rw [List.findIdx?_eq_some_iff_getElem]
    refine ⟨inside, beq_self_eq_true _, fun j lt same => ?_⟩
    exact Nat.ne_of_lt lt ((Scheme.nodup_names k).getElem_inj_iff.1 (eq_of_beq same))
  rw [value?, place]
  rfl

/-- **What a batch writes under the name of a counter is the value of the counter.** -/
theorem written_counterName (a : Aggregation k) {category counter : String}
    (h : counter ∈ (Scheme.of k).names) :
    written a.entries (counterName category counter) = (a.value? category counter).getD 0 := by
  obtain ⟨slot, found⟩ := List.getElem?_of_mem h
  have distinct : a.toList.Pairwise fun p q => p.1 ≠ q.1 :=
    Std.TreeMap.distinct_keys_toList.imp fun differ same =>
      differ (Std.compare_eq_iff_eq.2 same)
  rw [entries, written_flatMap]
  simp only [written_bucketEntries_counterName h, sum_zip_names found]
  rw [value?_eq a category found]
  let value : Bucket → Int := fun b => b.values[slot]?.getD 0
  cases hb : a.get? category with
  | none =>
    refine sum_of_notMem (f := value) fun entry he same => ?_
    have there : a.get? entry.1 = some entry.2 := Std.TreeMap.mem_toList_iff_getElem?_eq_some.1 he
    rw [same, hb] at there
    cases there
  | some b =>
    have there : (category, b) ∈ a.toList := Std.TreeMap.mem_toList_iff_getElem?_eq_some.2 hb
    exact sum_of_mem (f := value) distinct there

/-- Under any other name a batch writes nothing. -/
theorem written_of_no_counter (a : Aggregation k) {name : String}
    (h : ∀ category, ∀ counter ∈ (Scheme.of k).names, counterName category counter ≠ name) :
    written a.entries name = 0 := by
  rw [entries, written_flatMap]
  refine List.sum_eq_zero fun amount ha => ?_
  obtain ⟨⟨category, b⟩, -, rfl⟩ := List.mem_map.1 ha
  rw [written_bucketEntries]
  refine List.sum_eq_zero fun amount ha => ?_
  obtain ⟨entry, he, rfl⟩ := List.mem_map.1 ha
  exact if_neg (h category entry.1 (List.of_mem_zip he).1)

/-- The records of every category keep their milliseconds in range. -/
def Modest (records : List (Record k)) : Prop :=
  ∀ category, (Scheme.of k).Modest (records.filter (·.key = category))

theorem Modest.sublist {rs ss : List (Record k)} (h : Modest ss) (sub : rs.Sublist ss) :
    Modest rs :=
  fun category => (h category).sublist (sub.filter _)

/-- The counters of a category are the exact amounts of its records. -/
theorem value?_ofRecords {records : List (Record k)} (h : Modest records) (category : String)
    {counter : String} {slot : Nat} (found : (Scheme.of k).names[slot]? = some counter) :
    ((ofRecords records).value? category counter).getD 0 =
      ((Scheme.of k).amounts (records.filter (·.key = category)))[slot]?.getD 0 := by
  rw [value?_eq _ category found, get?_ofRecords]
  split
  · rename_i nothing
    rw [nothing, Scheme.amounts_nil]
    rfl
  · rw [Option.bind_some, Bucket.values_addAll (h category)]

/-- Two batches write what one batch of their records writes. -/
theorem written_ofRecords_append {rs ss : List (Record k)} (h : Modest (rs ++ ss))
    (name : String) : written (ofRecords (rs ++ ss)).entries name =
      written (ofRecords rs).entries name + written (ofRecords ss).entries name := by
  -- a name is that of at most one counter of one category
  by_cases meant : ∃ category, ∃ counter ∈ (Scheme.of k).names, counterName category counter = name
  · obtain ⟨category, counter, hc, rfl⟩ := meant
    obtain ⟨slot, found⟩ := List.getElem?_of_mem hc
    have inside : slot < (Scheme.of k).names.length := (List.getElem?_eq_some_iff.1 found).1
    have first : Modest rs := h.sublist (List.sublist_append_left rs ss)
    have second : Modest ss := h.sublist (List.sublist_append_right rs ss)
    rw [written_counterName _ hc, written_counterName _ hc, written_counterName _ hc,
      value?_ofRecords h category found, value?_ofRecords first category found,
      value?_ofRecords second category found, List.filter_append, Scheme.amounts_append]
    have there : ∀ records, slot < ((Scheme.of k).amounts records).length := by
      intro records
      rw [Scheme.length_amounts]
      exact inside
    simp [there]
  · push Not at meant
    rw [written_of_no_counter _ meant, written_of_no_counter _ meant,
      written_of_no_counter _ meant, add_zero]

end Aggregation

end TaskLedger
