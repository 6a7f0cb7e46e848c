import Mathlib
import TaskLedger.Proofs.Tally.Amounts

/-!
# The categories of a batch

What the counters of a category have to be is said here once more, counter by counter, and without
the scheme that they are counted by: which reasons of failures are told apart, and which stages the
times lie between.

* `Kind.reasons` and `Kind.stages`: the counters of failures by reason, and those of milliseconds;
* `Counted`: the counters of a category are those of its records;
* `sum_countP_categories`: what is counted category by category adds up to what the batch has;
* `Aggregation.counted_by_category` puts this together.
-/

namespace TaskLedger

variable {k : Kind}

/-! ### What the counters are -/

/-- A counter of the failures with one reason, and whether a record is a failure for this reason. -/
structure Reason (k : Kind) where
  name : String
  caused : Record k → Bool

/-- A counter of the milliseconds from one instant of the records to another. -/
structure Stage (k : Kind) where
  name : String
  start : Record k → Option Instant
  finish : Record k → Option Instant

/-- The milliseconds of those records that have both instants, cut toward zero. -/
def Stage.millis (stage : Stage k) (records : List (Record k)) : List Int :=
  records.filterMap fun r => do
    let start ← stage.start r
    let finish ← stage.finish r
    return (Instant.elapsedNanos start finish).tdiv 1000000

namespace Kind

/-- The reasons that are told apart.  The configuration is one for tasks only. -/
def reasons : (k : Kind) → List (Reason k)
  | .runner => [
    ⟨"numFailProgram", fun r => r.state = .programError⟩,
    ⟨"numFailConfig", fun r => r.state = .configError⟩,
    ⟨"numFailPartner", fun r => r.state = .partnerError⟩,
    ⟨"numFailData", fun r => r.state = .dataError⟩]
  | .croner => [
    ⟨"numFailProgram", fun r => r.state = .programError⟩,
    ⟨"numFailPartner", fun r => r.state = .partnerError⟩,
    ⟨"numFailData", fun r => r.state = .dataError⟩]

/-- The times that are added up. -/
def stages : (k : Kind) → List (Stage k)
  | .runner => [
    ⟨"timeAll", (·.queuedAt), (·.finishedAt)⟩,
    ⟨"timeQueue", (·.queuedAt), (·.consumedAt)⟩,
    ⟨"timeWait", (·.consumedAt), (·.runAt)⟩,
    ⟨"timeRun", (·.runAt), (·.finishedAt)⟩]
  | .croner => [
    ⟨"timeAll", (·.scheduledAt), (·.finishedAt)⟩,
    ⟨"timeWait", (·.scheduledAt), (·.runAt)⟩,
    ⟨"timeRun", (·.runAt), (·.finishedAt)⟩]

/-- The next run that a record announces; only those of scheduled jobs do. -/
def nextRun : (k : Kind) → Record k → Option Instant
  | .runner, _ => none
  | .croner, r => r.nextAt

end Kind

/-- Whether a task or a job ended as it should. -/
def Record.succeeded : {k : Kind} → Record k → Bool
  | .runner, (r : Runner.Outcome) => r.state = .success
  | .croner, (r : Croner.Outcome) => r.state = .success

/-- A reading of the counters of a category, and its next run, are those of some records.

* All records are counted, and those that are no success; every reason counts the failures that it
  caused, and every failure has one reason.
* Milliseconds are added up from left to right, and stay at either end of 64 bits; they are exact
  unless a sum on the way leaves 64 bits.
* There are no other counters, and the next run is the one that the last record announces, absent
  included. -/
structure Counted (k : Kind) (value? : String → Option Int) (next : Option Instant)
    (records : List (Record k)) : Prop where
  all_eq : value? "numAll" = some (records.length : Int)
  failures_eq : value? "numFail" = some (records.countP fun r => !r.succeeded : Int)
  reason_eq : ∀ reason ∈ k.reasons,
    value? reason.name = some (records.countP reason.caused : Int)
  reasons_eq : value? "numFail" =
    some (k.reasons.map fun reason => (value? reason.name).getD 0).sum
  stage_eq : ∀ stage ∈ k.stages,
    value? stage.name = some (Signed64.sum (stage.millis records))
  exact : ∀ stage ∈ k.stages, (∀ front, front <+: stage.millis records → Signed64.Fits front.sum) →
    value? stage.name = some (stage.millis records).sum
  other_eq : ∀ name,
    name ∉ ["numAll", "numFail"] ++ k.reasons.map Reason.name ++ k.stages.map Stage.name →
      value? name = none
  next_eq : next = records.getLast?.bind k.nextRun

/-! ### The counters of one category -/

/-- The counters of records count all records, the failures, and the failures by reason. -/
theorem Scheme.counts_eq (k : Kind) : (of k).counts =
    ⟨"numAll", fun _ => true⟩ :: ⟨"numFail", fun r => !r.succeeded⟩ ::
      k.reasons.map fun reason => ⟨reason.name, reason.caused⟩ := by
  cases k <;> rfl

/-- The counters of milliseconds are those of the stages. -/
theorem Scheme.phases_eq (k : Kind) : (of k).phases =
    k.stages.map fun stage => ⟨stage.name, stage.start, stage.finish⟩ := by
  cases k <;> rfl

theorem Scheme.all_mem (k : Kind) : ⟨"numAll", fun _ => true⟩ ∈ (of k).counts := by
  rw [counts_eq]
  exact List.mem_cons_self

theorem Scheme.failures_mem (k : Kind) :
    ⟨"numFail", fun r => !r.succeeded⟩ ∈ (of k).counts := by
  rw [counts_eq]
  exact List.mem_cons_of_mem _ List.mem_cons_self

theorem Scheme.reason_mem {reason : Reason k} (h : reason ∈ k.reasons) :
    ⟨reason.name, reason.caused⟩ ∈ (of k).counts := by
  rw [counts_eq]
  exact List.mem_cons_of_mem _ (List.mem_cons_of_mem _ (List.mem_map_of_mem h))

theorem Scheme.stage_mem {stage : Stage k} (h : stage ∈ k.stages) :
    ⟨stage.name, stage.start, stage.finish⟩ ∈ (of k).phases := by
  rw [phases_eq]
  exact List.mem_map_of_mem h

theorem Scheme.names_eq (k : Kind) : (of k).names =
    ["numAll", "numFail"] ++ k.reasons.map Reason.name ++ k.stages.map Stage.name := by
  cases k <;> rfl

theorem Stage.millis_eq (stage : Stage k) (records : List (Record k)) : stage.millis records =
    records.filterMap (Phase.millis ⟨stage.name, stage.start, stage.finish⟩) := by
  refine List.filterMap_congr fun r _ => ?_
  cases hs : stage.start r <;> cases hf : stage.finish r <;>
    simp [Phase.millis, Instant.elapsedMillis, hs, hf]

/-- Every failure has exactly one reason. -/
theorem countP_failures (records : List (Record k)) :
    records.countP (fun r => !r.succeeded) =
      (k.reasons.map fun reason => records.countP reason.caused).sum := by
  induction records with
  | nil => cases k <;> rfl
  | cons r records ih =>
    cases k with
    | runner =>
      have one : ∀ s : Runner.State, (if s = .success then 0 else 1) =
          (if s = .programError then 1 else 0) + (if s = .configError then 1 else 0) +
            (if s = .partnerError then 1 else 0) + if s = .dataError then 1 else 0 := by
        intro s
        cases s <;> rfl
      have here := one r.state
      simp [Kind.reasons, List.countP_cons, Record.succeeded] at ih ⊢
      omega
    | croner =>
      have one : ∀ s : Croner.State, (if s = .success then 0 else 1) =
          (if s = .programError then 1 else 0) + (if s = .partnerError then 1 else 0) +
            if s = .dataError then 1 else 0 := by
        intro s
        cases s <;> rfl
      have here := one r.state
      simp [Kind.reasons, List.countP_cons, Record.succeeded] at ih ⊢
      omega

namespace Aggregation

variable {records : List (Record k)} {category : String}

/-- The bucket of a category that has records. -/
theorem get?_of_ne_nil (there : records.filter (·.key = category) ≠ []) :
    (ofRecords records).get? category = some
      ((Bucket.zero (.of k)).addAll (.of k) (records.filter (·.key = category))) := by
  rw [get?_ofRecords, if_neg there]

/-- A category that has a bucket has records. -/
theorem ne_nil_of_get? {b : Bucket} (found : (ofRecords records).get? category = some b) :
    records.filter (·.key = category) ≠ [] := by
  intro nothing
  rw [get?_ofRecords, if_pos nothing] at found
  cases found

/-- A counter of records, found by its name. -/
theorem value?_count (there : records.filter (·.key = category) ≠ []) {count : Count (Record k)}
    (h : count ∈ (Scheme.of k).counts) : (ofRecords records).value? category count.name =
      some ((records.filter (·.key = category)).countP count.counts : Int) := by
  obtain ⟨slot, found⟩ := List.getElem?_of_mem h
  have named : (Scheme.of k).names[slot]? = some count.name := by
    have inside := (List.getElem?_eq_some_iff.1 found).1
    rw [Scheme.names, List.getElem?_append_left (by simpa using inside), List.getElem?_map, found]
    rfl
  have inside := (List.getElem?_eq_some_iff.1 found).1
  rw [value?_eq _ category named, get?_of_ne_nil there, Option.bind_some, Bucket.values,
    Bucket.counts_addAll, List.getElem?_append_left (by simpa using inside), List.getElem?_map,
    found]
  rfl

/-- A counter of milliseconds, found by its name. -/
theorem value?_phase (there : records.filter (·.key = category) ≠ []) {phase : Phase (Record k)}
    (h : phase ∈ (Scheme.of k).phases) : (ofRecords records).value? category phase.name =
      some (Signed64.sum ((records.filter (·.key = category)).filterMap phase.millis)) := by
  obtain ⟨slot, found⟩ := List.getElem?_of_mem h
  have named : (Scheme.of k).names[(Scheme.of k).counts.length + slot]? = some phase.name := by
    rw [Scheme.names, List.getElem?_append_right (by simp), List.length_map,
      Nat.add_sub_cancel_left, List.getElem?_map, found]
    rfl
  rw [value?_eq _ category named, get?_of_ne_nil there, Option.bind_some, Bucket.values,
    Bucket.counts_addAll, Bucket.times_addAll, List.getElem?_append_right (by simp),
    List.length_map, Nat.add_sub_cancel_left, List.getElem?_map, found]
  rfl

/-- There is no counter of another name. -/
theorem value?_of_notMem (a : Aggregation k) (category : String) {name : String}
    (h : name ∉ (Scheme.of k).names) : a.value? category name = none := by
  have nowhere : (Scheme.of k).names.findIdx? (· == name) = none := by
    rw [List.findIdx?_eq_none_iff]
    intro other there
    rw [beq_eq_false_iff_ne]
    rintro rfl
    exact h there
  rw [value?, nowhere]
  rfl

/-- The counters of a category are those of its records. -/
theorem counted_of_get? {b : Bucket} (found : (ofRecords records).get? category = some b) :
    Counted k ((ofRecords records).value? category) b.next (records.filter (·.key = category)) := by
  have there := ne_nil_of_get? found
  rw [get?_of_ne_nil there] at found
  have all_eq := value?_count there (Scheme.all_mem k)
  have failures_eq := value?_count there (Scheme.failures_mem k)
  have reason_eq : ∀ reason ∈ k.reasons, (ofRecords records).value? category reason.name =
      some ((records.filter (·.key = category)).countP reason.caused : Int) :=
    fun reason hr => value?_count there (Scheme.reason_mem hr)
  have stage_eq : ∀ stage ∈ k.stages, (ofRecords records).value? category stage.name =
      some (Signed64.sum (stage.millis (records.filter (·.key = category)))) := by
    intro stage hs
    rw [Stage.millis_eq]
    exact value?_phase there (Scheme.stage_mem hs)
  refine
    { all_eq := ?_
      failures_eq := failures_eq
      reason_eq := reason_eq
      reasons_eq := ?_
      stage_eq := stage_eq
      exact := ?_
      other_eq := ?_
      next_eq := ?_ }
  · rw [all_eq, List.countP_true]
  · rw [failures_eq, countP_failures, Nat.cast_list_sum, List.map_map]
    refine congrArg (fun values : List Int => some values.sum)
      (List.map_congr_left fun reason hr => ?_)
    rw [reason_eq reason hr]
    rfl
  · intro stage hs inside
    rw [stage_eq stage hs, Signed64.sum_eq inside]
  · intro name other
    exact value?_of_notMem _ category (Scheme.names_eq k ▸ other)
  · cases found
    rw [Bucket.next_addAll]
    cases k <;> rfl

end Aggregation

/-! ### All categories -/

/-- What is counted category by category is what all records have: no category comes twice, and
every record belongs to one of them. -/
theorem sum_countP_categories (p : Record k → Bool) {categories : List String}
    (distinct : categories.Nodup) {records : List (Record k)}
    (all : ∀ r ∈ records, r.key ∈ categories) :
    (categories.map fun category => (records.filter (·.key = category)).countP p).sum =
      records.countP p := by
  induction records with
  | nil => simp
  | cons r records ih =>
    have rest := ih fun other ho => all other (List.mem_cons_of_mem r ho)
    have one : ∀ category, ((r :: records).filter (·.key = category)).countP p =
        (if category = r.key then (if p r then 1 else 0) else 0) +
          (records.filter (·.key = category)).countP p := by
      intro category
      by_cases same : r.key = category
      · rw [List.filter_cons_of_pos (by simpa using same), List.countP_cons, if_pos same.symm]
        omega
      · rw [List.filter_cons_of_neg (by simpa using same), if_neg (Ne.symm same), Nat.zero_add]
    simp only [one]
    rw [List.sum_map_add, rest, List.countP_cons, Nat.add_comm, ← List.sum_toFinset _ distinct,
      Finset.sum_ite_eq', if_pos (List.mem_toFinset.2 (all r List.mem_cons_self))]

namespace Aggregation

/-- No category is listed twice. -/
theorem nodup_categories (a : Aggregation k) : (a.toList.map Prod.fst).Nodup := by
  refine List.pairwise_map.2 (Std.TreeMap.distinct_keys_toList.imp fun differ same => ?_)
  exact differ (Std.compare_eq_iff_eq.2 same)

theorem mem_toList {a : Aggregation k} {category : String} {b : Bucket} :
    (category, b) ∈ a.toList ↔ a.get? category = some b :=
  Std.TreeMap.mem_toList_iff_getElem?_eq_some

/-- The categories are those of the records. -/
theorem exists_get?_iff {records : List (Record k)} {category : String} :
    (∃ b, (ofRecords records).get? category = some b) ↔ ∃ r ∈ records, r.key = category := by
  constructor
  · rintro ⟨b, found⟩
    obtain ⟨r, hr⟩ := List.exists_mem_of_ne_nil _ (ne_nil_of_get? found)
    obtain ⟨there, key⟩ := List.mem_filter.1 hr
    exact ⟨r, there, of_decide_eq_true key⟩
  · rintro ⟨r, there, rfl⟩
    refine ⟨_, get?_of_ne_nil (List.ne_nil_of_mem (List.mem_filter.2 ⟨there, ?_⟩))⟩
    exact decide_eq_true rfl

/-- A counter of records has, over all categories, the value that it would have if all records
belonged to one. -/
theorem sum_value?_count (records : List (Record k)) {count : Count (Record k)}
    (h : count ∈ (Scheme.of k).counts) :
    ((ofRecords records).toList.map fun entry =>
      ((ofRecords records).value? entry.1 count.name).getD 0).sum =
      (records.countP count.counts : Int) := by
  have value_eq : ∀ entry ∈ (ofRecords records).toList,
      ((ofRecords records).value? entry.1 count.name).getD 0 =
        ((records.filter (·.key = entry.1)).countP count.counts : Int) := by
    intro entry he
    rw [value?_count (ne_nil_of_get? (mem_toList.1 he)) h, Option.getD_some]
  have all : ∀ r ∈ records, r.key ∈ (ofRecords records).toList.map Prod.fst := by
    intro r hr
    obtain ⟨b, found⟩ := exists_get?_iff.2 ⟨r, hr, rfl⟩
    exact List.mem_map.2 ⟨(r.key, b), mem_toList.2 found, rfl⟩
  rw [List.map_congr_left value_eq, ← sum_countP_categories _ (nodup_categories _) all,
    List.map_map, Nat.cast_list_sum, List.map_map]
  rfl

/-- The counters of fewer than `2 ^ 63` records fit into 64 bits. -/
theorem fits_of_get? {records : List (Record k)} (few : records.length < 2 ^ 63)
    {category : String} {b : Bucket} (found : (ofRecords records).get? category = some b) :
    ∀ value ∈ b.values, Signed64.Fits value := by
  rw [get?_of_ne_nil (ne_nil_of_get? found)] at found
  cases found
  rw [Bucket.values, Bucket.counts_addAll, Bucket.times_addAll]
  intro value hv
  rcases List.mem_append.1 hv with of_count | of_phase
  · obtain ⟨count, -, rfl⟩ := List.mem_map.1 of_count
    have le : (records.filter (·.key = category)).countP count.counts ≤ records.length :=
      List.countP_le_length.trans (List.length_filter_le _ _)
    simp only [Signed64.Fits, Signed64.least, Signed64.greatest]
    omega
  · obtain ⟨phase, -, rfl⟩ := List.mem_map.1 of_phase
    exact Signed64.fits_sum _

/-- **A batch is counted category by category.**  There is a bucket for exactly the keys of the
records.  In the bucket of a key its records are counted, and no others: all of them, the failures,
the failures by reason, each of which has one, and the milliseconds of every stage, which are added
up from left to right and are exact unless a sum on the way leaves 64 bits; the next run is the one
that the last of them announces.  There is a value for every counter and there are no other
counters; all values fit into 64 bits if the records are fewer than `2 ^ 63`.  Over all keys, all
records are counted. -/
theorem counted_by_category (records : List (Record k)) :
    let a := ofRecords records
    (∀ category, (∃ b, a.get? category = some b) ↔ ∃ r ∈ records, r.key = category) ∧
    (∀ category b, a.get? category = some b →
      Counted k (a.value? category) b.next (records.filter (·.key = category)) ∧
      b.values.length = 2 + k.reasons.length + k.stages.length ∧
      (records.length < 2 ^ 63 → ∀ value ∈ b.values, Signed64.Fits value)) ∧
    (a.toList.map fun entry => (a.value? entry.1 "numAll").getD 0).sum =
      (records.length : Int) := by
  intro a
  refine ⟨fun category => exists_get?_iff, fun category b found => ?_, ?_⟩
  · refine ⟨counted_of_get? found, ?_, fun few => fits_of_get? few found⟩
    rw [get?_of_ne_nil (ne_nil_of_get? found)] at found
    cases found
    rw [Bucket.values, Bucket.counts_addAll, Bucket.times_addAll, Scheme.counts_eq,
      Scheme.phases_eq]
    simp only [List.length_append, List.length_map, List.length_cons]
    omega
  · have sum_eq := sum_value?_count records (Scheme.all_mem k)
    rw [List.countP_true] at sum_eq
    exact sum_eq

end Aggregation

end TaskLedger
