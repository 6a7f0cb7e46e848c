import Mathlib
import TaskLedger.Metrics.Published
import TaskLedger.Proofs.Tally.Overflow

/-!
# Published counters

A published counter is found again by the name under which it was written: its category is a label,
also if it has points in it, and no two counters share a series.  Sums of milliseconds move gauges.
Whatever batches are written, no counter of records is refused, and it is the same number as the
total in a store that took the same amounts.

* `splitName_counterName`: a name is split into the category and the counter that it was put
  together from;
* `snakeCase_inj`: different names stay different with underscores and small letters;
* `isDuration_iff`: the sums of durations are the counters of milliseconds;
* `Agree`: a store and a registry have the same counters of records, which `Agree.add` keeps up as
  long as the store takes what a batch writes;
* `Store.takenAll`: what a store takes of some batches;
* `published_agrees` puts this together.
-/

namespace TaskLedger

variable {k : Kind} {scope : String}

open Aggregation (counterName)

namespace Published

/-! ### Names -/

/-- A name is split at the point that it was put together at. -/
theorem splitName_counterName {counter : String} (plain : '.' ∉ counter.toList)
    (category : String) : splitName (counterName category counter) = (category, counter) := by
  have back : (counterName category counter).toList.reverse =
      counter.toList.reverse ++ '.' :: category.toList.reverse := by
    simp [counterName]
  have before : ∀ c ∈ counter.toList.reverse, decide (c ≠ '.') = true := by
    intro c hc
    apply decide_eq_true
    rintro rfl
    exact plain (List.mem_reverse.1 hc)
  rw [splitName]
  simp only [back, List.dropWhile_append_of_pos before, List.takeWhile_append_of_pos before]
  simp [List.dropWhile, List.takeWhile]

/-- A name that begins with no capital letter and has no underscore. -/
def Plain (name : String) : Prop :=
  '_' ∉ name.toList ∧ name.toList.head?.any Char.isUpper = false

instance (name : String) : Decidable (Plain name) :=
  inferInstanceAs (Decidable (_ ∧ _))

theorem toLower_inj {c d : Char} (hc : c.isUpper = true) (hd : d.isUpper = true)
    (same : c.toLower = d.toLower) : c = d := by
  have lower : ∀ c : Char, c.isUpper = true → c.toLower.val = c.val + 32 := by
    intro c hc
    rw [Char.toLower, dif_pos (of_decide_eq_true hc)]
    rfl
  have vals := congrArg Char.val same
  rw [lower c hc, lower d hd] at vals
  exact Char.ext (add_right_cancel vals)

/-- Capital letters are told from others by the underscore before them. -/
theorem flatMap_snake_inj {cs ds : List Char} (hc : '_' ∉ cs) (hd : '_' ∉ ds)
    (same : (cs.flatMap fun c => if c.isUpper then ['_', c.toLower] else [c]) =
      ds.flatMap fun c => if c.isUpper then ['_', c.toLower] else [c]) : cs = ds := by
  induction cs generalizing ds with
  | nil =>
    cases ds with
    | nil => rfl
    | cons d ds => cases hu : d.isUpper <;> simp [hu] at same
  | cons c cs ih =>
    cases ds with
    | nil => cases hu : c.isUpper <;> simp [hu] at same
    | cons d ds =>
      rw [List.mem_cons, not_or] at hc hd
      rw [List.flatMap_cons, List.flatMap_cons] at same
      cases hu : c.isUpper <;> cases hv : d.isUpper <;>
        simp only [hu, hv, if_true, if_false, Bool.false_eq_true, List.cons_append, List.nil_append,
          List.cons.injEq, true_and] at same
      · exact congrArg₂ List.cons same.1 (ih hc.2 hd.2 same.2)
      · exact absurd same.1.symm hc.1
      · exact absurd same.1 hd.1
      · exact congrArg₂ List.cons (toLower_inj hu hv same.1) (ih hc.2 hd.2 same.2)

/-- Different names stay different with underscores and small letters. -/
theorem snakeCase_inj {a b : String} (ha : Plain a) (hb : Plain b)
    (same : snakeCase a = snakeCase b) : a = b := by
  have whole : ∀ name : String, Plain name → (snakeCase name).toList =
      name.toList.flatMap fun c => if c.isUpper then ['_', c.toLower] else [c] := by
    intro name plain
    obtain ⟨-, first⟩ := plain
    rw [snakeCase, String.toList_ofList]
    cases hn : name.toList with
    | nil => rfl
    | cons c cs =>
      rw [hn] at first
      have small : c.isUpper = false := first
      have kept : c.toLower = c := Char.toLower_eq_of_not_isUpper (by simp [small])
      simp [small, kept]
  have lists := congrArg String.toList same
  rw [whole a ha, whole b hb] at lists
  exact String.toList_inj.1 (flatMap_snake_inj ha.1 hb.1 lists)

theorem plain_of_mem_names {counter : String} (h : counter ∈ (Scheme.of k).names) :
    Plain counter := by
  have all : ∀ counter ∈ (Scheme.of k).names, Plain counter := by cases k <;> decide
  exact all counter h

theorem splitName_of_mem_names {counter : String} (h : counter ∈ (Scheme.of k).names)
    (category : String) : splitName (counterName category counter) = (category, counter) :=
  splitName_counterName (dot_notMem_of_mem_names h) category

/-- The series of a counter. -/
theorem series_counterName {counter : String} (h : counter ∈ (Scheme.of k).names)
    (scope category : String) : series scope (counterName category counter) =
      ⟨scope ++ "_" ++ snakeCase counter, [("category", category)]⟩ := by
  rw [series, splitName_of_mem_names h]

/-- No two counters share a series. -/
theorem series_inj {j : Kind} {category category' counter counter' : String}
    (h : counter ∈ (Scheme.of j).names) (h' : counter' ∈ (Scheme.of k).names)
    (same : series scope (counterName category counter) =
      series scope (counterName category' counter')) :
    category = category' ∧ counter = counter' := by
  rw [series_counterName h, series_counterName h', Series.mk.injEq] at same
  obtain ⟨names, labels⟩ := same
  have lists := congrArg String.toList names
  simp only [String.toList_append, List.append_assoc, List.append_cancel_left_eq] at lists
  have snakes : snakeCase counter = snakeCase counter' := String.toList_inj.1 lists
  refine ⟨by simpa using labels, ?_⟩
  exact snakeCase_inj (plain_of_mem_names h) (plain_of_mem_names h') snakes

/-- The sums of durations are the counters of milliseconds. -/
theorem isDuration_iff {counter : String} (h : counter ∈ (Scheme.of k).names) :
    isDuration counter = true ↔ counter ∈ (Scheme.of k).phases.map Phase.name := by
  have begins : isDuration counter = true ↔ "time".toList <+: counter.toList :=
    String.startsWith_string_iff
  have all : ∀ counter ∈ (Scheme.of k).names,
      "time".toList <+: counter.toList ↔ counter ∈ (Scheme.of k).phases.map Phase.name := by
    cases k <;> decide
  exact begins.trans (all counter h)

/-- A counter of records is no sum of durations. -/
theorem isDuration_count {count : Count (Record k)} (h : count ∈ (Scheme.of k).counts) :
    isDuration count.name = false := by
  have counted : count.name ∈ (Scheme.of k).counts.map Count.name := List.mem_map_of_mem h
  rw [← Bool.not_eq_true, isDuration_iff (Scheme.count_mem_names h)]
  exact fun phase => (List.nodup_append.1 (Scheme.nodup_names k)).2.2 _ counted _ phase rfl

/-! ### What is published -/

/-- Milliseconds move a gauge.  Records are counted, unless the amount is negative. -/
theorem add_counterName {counter : String} (h : counter ∈ (Scheme.of k).names) (scope : String)
    (r : Registry) (category : String) (delta : Int) :
    let name := counterName category counter
    add scope r name delta =
      if counter ∈ (Scheme.of k).phases.map Phase.name then
        (r.moveGauge (series scope name) (Signed64.toFloat delta), [])
      else if delta < 0 then (r, [refusal name delta])
      else (r.count (series scope name) delta.toNat, []) := by
  intro name
  rw [add, splitName_of_mem_names h]
  simp only [isDuration_iff h]

theorem addAll_concat (scope : String) (r : Registry) (entries : List (String × Int))
    (entry : String × Int) : addAll scope r (entries ++ [entry]) =
      ((add scope (addAll scope r entries).1 entry.1 entry.2).1,
        (addAll scope r entries).2 ++
          (add scope (addAll scope r entries).1 entry.1 entry.2).2) := by
  rw [addAll, List.foldl_append]
  rfl

/-- What a batch may write: an amount under the name of a counter, not negative unless it is of
milliseconds. -/
def Regular (entry : String × Int) : Prop :=
  ∃ (k : Kind) (category counter : String), counter ∈ (Scheme.of k).names ∧
    counterName category counter = entry.1 ∧
    (counter ∈ (Scheme.of k).phases.map Phase.name ∨ 0 ≤ entry.2)

theorem regular_of_mem {batch : Batch} {entry : String × Int} (h : entry ∈ batch.entries) :
    Regular entry := by
  obtain ⟨category, counter, value, -, name_eq⟩ := Aggregation.mem_entries.1 h
  have named := Aggregation.mem_names_of_value? value
  refine ⟨batch.kind, category, counter, named, name_eq, ?_⟩
  rcases List.mem_append.1 named with counted | phase
  · right
    obtain ⟨count, counts, rfl⟩ := List.mem_map.1 counted
    exact Aggregation.nonneg_of_count counts value
  · exact Or.inl phase

/-- A store and a registry have the same counters of records. -/
def Agree (scope : String) (s : Store) (r : Registry) : Prop :=
  ∀ (k : Kind) (category : String), ∀ count ∈ (Scheme.of k).counts,
    s.get? (counterName category count.name) =
      (r.counter? (series scope (counterName category count.name))).map fun n : Nat => (n : Int)

theorem agree_empty (scope : String) : Agree scope .empty {} :=
  fun _ _ _ _ => Store.get?_empty _

/-- Raising a counter and adding to a total come to the same as long as the total fits. -/
theorem cast_count (old : Option Nat) {delta : Int} (natural : 0 ≤ delta)
    (fits : Signed64.Fits ((old.map fun n : Nat => (n : Int)).getD 0 + delta)) :
    (old.map fun n : Nat => (n : Int)).getD 0 + delta =
      (((old.getD 0 + delta.toNat) % Registry.counterBound : Nat) : Int) := by
  have bound : Registry.counterBound = 2 ^ 64 := rfl
  have before := Option.getD_map (fun n : Nat => (n : Int)) 0 old
  rw [Nat.cast_zero] at before
  rw [before] at fits ⊢
  simp only [Signed64.Fits, Signed64.greatest] at fits
  rw [bound]
  omega

variable {s next : Store} {r : Registry} {entry : String × Int}

/-- Nothing is refused that a batch may write. -/
theorem add_snd_of_regular (regular : Regular entry) : (add scope r entry.1 entry.2).2 = [] := by
  obtain ⟨j, category, counter, named, name_eq, natural⟩ := regular
  have moved := add_counterName named scope r category entry.2
  simp only [name_eq] at moved
  rw [moved]
  split
  · rfl
  · rename_i record
    rw [if_neg (Int.not_lt.2 (natural.resolve_left record))]

/-- The agreement is kept by what a batch may write, if the store takes it. -/
theorem Agree.add (h : Agree scope s r) (regular : Regular entry)
    (added : s.add? entry.1 entry.2 = some next) :
    Agree scope next (add scope r entry.1 entry.2).1 := by
  obtain ⟨j, category', counter, named, name_eq, natural⟩ := regular
  have moved := add_counterName named scope r category' entry.2
  simp only [name_eq] at moved
  rw [moved]
  split
  · -- a gauge is no counter, so the counters stay as they are on both sides
    rename_i phase
    intro k category count counts
    have other : entry.1 ≠ counterName category count.name := by
      intro same
      have duration := isDuration_count counts
      rw [← (counterName_inj named (Scheme.count_mem_names counts) (name_eq.trans same)).2,
        (isDuration_iff named).2 phase] at duration
      cases duration
    rw [Store.get?_of_add? added, if_neg other, h k category count counts]
    rfl
  · rename_i record
    have natural : 0 ≤ entry.2 := natural.resolve_left record
    rw [if_neg (Int.not_lt.2 natural)]
    intro k category count counts
    have before := h k category count counts
    rw [Store.get?_of_add? added, Registry.counter?_count]
    by_cases same : entry.1 = counterName category count.name
    · have fits := (Store.of_add? added).1
      rw [same, Store.total, before] at fits
      rw [if_pos same, same, if_pos rfl, Store.total, before, cast_count _ natural fits]
      rfl
    · have apart : series scope (counterName category count.name) ≠ series scope entry.1 := by
        rw [← name_eq]
        intro shared
        obtain ⟨rfl, rfl⟩ := series_inj (Scheme.count_mem_names counts) named shared
        exact same name_eq.symm
      rw [if_neg same, if_neg apart, before]

theorem addAll_snd_of_regular {entries : List (String × Int)}
    (regular : ∀ entry ∈ entries, Regular entry) : (addAll scope r entries).2 = [] := by
  induction entries using List.reverseRecOn with
  | nil => rfl
  | append_singleton entries entry ih =>
    rw [addAll_concat, ih fun other ho => regular other (List.mem_append_left _ ho),
      add_snd_of_regular (regular entry (List.mem_append_right entries List.mem_cons_self))]
    rfl

theorem agree_addAll (scope : String) {entries : List (String × Int)}
    (regular : ∀ entry ∈ entries, Regular entry) (taken : Store.empty.takes entries = true) :
    Agree scope (Store.empty.addAll entries) (addAll scope {} entries).1 := by
  induction entries using List.reverseRecOn with
  | nil => exact agree_empty scope
  | append_singleton entries entry ih =>
    rw [Store.takes_append, Bool.and_eq_true] at taken
    obtain ⟨front, last⟩ := taken
    have agree := ih (fun other ho => regular other (List.mem_append_left _ ho)) front
    have here := regular entry (List.mem_append_right entries List.mem_cons_self)
    rw [addAll_concat, Store.addAll_append_of_takes front]
    cases added : (Store.empty.addAll entries).add? entry.1 entry.2 with
    | some next =>
      rw [Store.addAll_cons_of_some added]
      exact agree.add here added
    | none =>
      rw [Store.takes_cons_of_none added] at last
      cases last

end Published

/-! ### What a store takes of some batches -/

namespace Store

/-- What a store takes of some batches, one after another. -/
def takenAll (s : Store) : List Batch → List (String × Int)
  | [] => []
  | batch :: batches => s.taken batch.entries ++ (s.addAll batch.entries).takenAll batches

theorem flushAll_eq (s : Store) (batches : List Batch) :
    s.takes (s.takenAll batches) = true ∧ s.flushAll batches = s.addAll (s.takenAll batches) := by
  induction batches generalizing s with
  | nil => exact ⟨rfl, rfl⟩
  | cons batch batches ih =>
    obtain ⟨taken, store_eq⟩ := ih (s.addAll batch.entries)
    have front := s.takes_taken batch.entries
    rw [takenAll, takes_append, addAll_append_of_takes front, front, addAll_taken, Bool.true_and]
    exact ⟨taken, store_eq⟩

theorem takenAll_subset (s : Store) (batches : List Batch) :
    s.takenAll batches ⊆ batches.flatMap Batch.entries := by
  induction batches generalizing s with
  | nil => exact List.Subset.refl _
  | cons batch batches ih =>
    rw [takenAll, List.flatMap_cons]
    refine List.append_subset.2 ⟨fun entry he => ?_, fun entry he => ?_⟩
    · exact List.mem_append_left _ ((s.prefix_taken _).subset he)
    · exact List.mem_append_right _ (ih _ he)

/-- If all flushes return, everything is taken. -/
theorem takenAll_of_returnsAll {s : Store} {batches : List Batch} (all : s.ReturnsAll batches) :
    s.takenAll batches = batches.flatMap Batch.entries := by
  induction batches generalizing s with
  | nil => rfl
  | cons batch batches ih =>
    obtain ⟨first, rest⟩ := returnsAll_cons.1 all
    rw [takenAll, List.flatMap_cons, takes_iff_taken_eq.1 first, ih rest]

end Store

namespace Published

/-- **What is published is what is counted.**  The name of a counter is split into its category,
whatever that is called, and the counter; the series has the name of the counter with underscores
behind the namespace, and the category for a label.  No two counters share a series.  An amount
moves a gauge exactly if it is of milliseconds, and counts records otherwise.  Whatever batches are
flushed, a registry refuses no amount.  An empty store and an empty registry that are given the same
amounts, up to the first one of each flush that the store refuses, have the same counters of
records; these are all amounts if every flush returns. -/
theorem published_agrees (scope : String) :
    (∀ k category, ∀ counter ∈ (Scheme.of k).names,
      let name := counterName category counter
      splitName name = (category, counter) ∧
      series scope name = ⟨scope ++ "_" ++ snakeCase counter, [("category", category)]⟩ ∧
      ∀ r delta, add scope r name delta =
        if counter ∈ (Scheme.of k).phases.map Phase.name then
          (r.moveGauge (series scope name) (Signed64.toFloat delta), [])
        else if delta < 0 then (r, [refusal name delta])
        else (r.count (series scope name) delta.toNat, [])) ∧
    (∀ j k category category', ∀ counter ∈ (Scheme.of j).names, ∀ counter' ∈ (Scheme.of k).names,
      series scope (counterName category counter) = series scope (counterName category' counter') →
      category = category' ∧ counter = counter') ∧
    ∀ batches : List Batch,
      let store := Store.empty.flushAll batches
      let taken := Store.empty.takenAll batches
      (addAll scope {} (batches.flatMap Batch.entries)).2 = [] ∧
      (addAll scope {} taken).2 = [] ∧
      (∀ k category, ∀ count ∈ (Scheme.of k).counts,
        let name := counterName category count.name
        store.get? name = ((addAll scope {} taken).1.counter? (series scope name)).map
          fun n : Nat => (n : Int)) ∧
      (Store.empty.ReturnsAll batches → taken = batches.flatMap Batch.entries) := by
  refine ⟨?_, ?_, ?_⟩
  · intro k category counter named name
    exact ⟨splitName_of_mem_names named category, series_counterName named scope category,
      fun r delta => add_counterName named scope r category delta⟩
  · intro j k category category' counter named counter' named' shared
    exact series_inj named named' shared
  · intro batches store taken
    have regular : ∀ entry ∈ batches.flatMap Batch.entries, Regular entry := by
      intro entry he
      obtain ⟨batch, -, written⟩ := List.mem_flatMap.1 he
      exact regular_of_mem written
    have regular_taken : ∀ entry ∈ taken, Regular entry :=
      fun entry he => regular entry (Store.takenAll_subset _ batches he)
    obtain ⟨all, store_eq⟩ := Store.empty.flushAll_eq batches
    have agree := agree_addAll scope regular_taken all
    rw [← store_eq] at agree
    exact ⟨addAll_snd_of_regular regular, addAll_snd_of_regular regular_taken, agree,
      Store.takenAll_of_returnsAll⟩

/-- A category may be called like a sum of durations.  Its records are counted nevertheless. -/
theorem published_agrees_of_timeline :
    let r : Record .runner := { taskClass := "app.timeline", state := .success }
    let batches : List Batch := [⟨.runner, [r, r]⟩, ⟨.runner, [r]⟩]
    let published := addAll "task" {} (batches.flatMap Batch.entries)
    published.2 = [] ∧
    published.1.counter? ⟨"task_num_all", [("category", "app.timeline")]⟩ = some 3 := by
  intro r batches published
  obtain ⟨names, -, runs⟩ := published_agrees "task"
  obtain ⟨nothing, -, counters, everything⟩ := runs batches
  have returned : Store.empty.ReturnsAll batches :=
    Store.returnsAll_cons.2 ⟨by decide, Store.returnsAll_cons.2 ⟨by decide, Store.returnsAll_nil _⟩⟩
  have number := counters .runner "app.timeline" _ (Scheme.all_mem .runner)
  have series_eq := (names .runner "app.timeline" "numAll" (by decide)).2.1
  have three : (Store.empty.flushAll batches).get? "app.timeline.numAll" = some 3 := by decide
  have snake : snakeCase "numAll" = "num_all" := by decide
  simp only [everything returned, series_eq, snake] at number
  obtain ⟨n, found, same⟩ := Option.map_eq_some_iff.1 (number.symm.trans three)
  refine ⟨nothing, found.trans ?_⟩
  exact congrArg some (Int.natCast_inj.1 same)

end Published

end TaskLedger
