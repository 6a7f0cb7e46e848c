import Mathlib
import TaskLedger.Proofs.Tally.Amounts

/-!
# What a store takes

A store takes amounts one after another, up to the first one that is refused.  What it has taken it
holds exactly, and it takes everything as long as all sums fit.

* `Store.taken`: the amounts before the first one that is refused;
* `Store.addAll_taken` and `Store.takes_iff_taken_eq`: a store is left as if only these were
  written;
* `Store.total_addAll` and `Store.calls_addAll`: what it holds then;
* `Store.takes_append`: amounts are taken in two parts;
* `Store.takes_iff`: amounts under different names are all taken if and only if each of them fits;
* `Signed64.sum?_of_nonneg`: a sum of numbers that are not negative fits all the way if it fits in
  the end.
-/

namespace TaskLedger

/-! ### Sums that have to fit -/

namespace Signed64

theorem sum?_concat (is : List Int) (i : Int) : sum? (is ++ [i]) = (sum? is).bind (add? · i) := by
  rw [sum?, List.foldlM_append]
  simp only [List.foldlM_cons, List.foldlM_nil, bind_pure]
  rfl

/-- Nothing negative can bring a sum back into the range. -/
theorem sum?_of_nonneg {is : List Int} (natural : ∀ i ∈ is, 0 ≤ i) :
    sum? is = if is.sum ≤ greatest then some is.sum else none := by
  induction is using List.reverseRecOn with
  | nil => rfl
  | append_singleton is i ih =>
    have front : ∀ j ∈ is, 0 ≤ j := fun j hj => natural j (List.mem_append_left _ hj)
    have last : 0 ≤ i := natural i (List.mem_append_right is List.mem_cons_self)
    have low := List.sum_nonneg front
    rw [sum?_concat, ih front, List.sum_append, List.sum_singleton]
    split
    · rw [Option.bind_some, add?]
      refine if_congr ?_ rfl rfl
      simp only [Fits, least]
      omega
    · rw [Option.bind_none, if_neg (by omega)]

end Signed64

namespace Store

variable {s : Store} {entries more : List (String × Int)} {name : String}

/-! ### Up to the first amount that is refused -/

/-- The amounts before the first one that is refused. -/
def taken (s : Store) : List (String × Int) → List (String × Int)
  | [] => []
  | entry :: entries =>
    match s.add? entry.1 entry.2 with
    | some next => entry :: next.taken entries
    | none => []

theorem taken_cons_of_some {next : Store} {entry : String × Int}
    (added : s.add? entry.1 entry.2 = some next) (entries : List (String × Int)) :
    s.taken (entry :: entries) = entry :: next.taken entries := by
  rw [taken, added]

theorem taken_cons_of_none {entry : String × Int} (refused : s.add? entry.1 entry.2 = none)
    (entries : List (String × Int)) : s.taken (entry :: entries) = [] := by
  rw [taken, refused]

theorem prefix_taken (s : Store) (entries : List (String × Int)) : s.taken entries <+: entries := by
  induction entries generalizing s with
  | nil => exact List.prefix_rfl
  | cons entry entries ih =>
    cases added : s.add? entry.1 entry.2 with
    | some next =>
      rw [taken_cons_of_some added]
      exact List.cons_prefix_cons.2 ⟨rfl, ih next⟩
    | none =>
      rw [taken_cons_of_none added]
      exact List.nil_prefix

/-- A store is left as if only that was written what it takes. -/
theorem addAll_taken (s : Store) (entries : List (String × Int)) :
    s.addAll (s.taken entries) = s.addAll entries := by
  induction entries generalizing s with
  | nil => rfl
  | cons entry entries ih =>
    cases added : s.add? entry.1 entry.2 with
    | some next =>
      rw [taken_cons_of_some added, addAll_cons_of_some added, addAll_cons_of_some added, ih]
    | none =>
      rw [taken_cons_of_none added, addAll_cons_of_none added]
      rfl

theorem takes_iff_taken_eq : s.takes entries = true ↔ s.taken entries = entries := by
  induction entries generalizing s with
  | nil => exact iff_of_true rfl rfl
  | cons entry entries ih =>
    cases added : s.add? entry.1 entry.2 with
    | some next =>
      rw [takes_cons_of_some added, taken_cons_of_some added, ih, List.cons.injEq,
        and_iff_right rfl]
    | none =>
      rw [takes_cons_of_none added, taken_cons_of_none added]
      exact iff_of_false Bool.false_ne_true (List.cons_ne_nil _ _).symm

theorem takes_taken (s : Store) (entries : List (String × Int)) :
    s.takes (s.taken entries) = true := by
  induction entries generalizing s with
  | nil => rfl
  | cons entry entries ih =>
    cases added : s.add? entry.1 entry.2 with
    | some next => rw [taken_cons_of_some added, takes_cons_of_some added, ih]
    | none =>
      rw [taken_cons_of_none added]
      rfl

/-- What is not taken begins with an amount that does not fit. -/
theorem exists_refused (refused : s.takes entries = false) : ∃ entry,
    s.taken entries ++ [entry] <+: entries ∧
      (s.addAll entries).add? entry.1 entry.2 = none := by
  induction entries generalizing s with
  | nil => cases refused
  | cons entry entries ih =>
    cases added : s.add? entry.1 entry.2 with
    | some next =>
      rw [takes_cons_of_some added] at refused
      obtain ⟨first, front, unfit⟩ := ih refused
      rw [taken_cons_of_some added, addAll_cons_of_some added]
      exact ⟨first, List.cons_prefix_cons.2 ⟨rfl, front⟩, unfit⟩
    | none =>
      rw [taken_cons_of_none added, addAll_cons_of_none added]
      exact ⟨entry, List.cons_prefix_cons.2 ⟨rfl, List.nil_prefix⟩, added⟩

/-! ### What a store holds -/

/-- A store holds exactly what it has taken. -/
theorem total_addAll (s : Store) (entries : List (String × Int)) (name : String) :
    (s.addAll entries).total name = s.total name + written (s.taken entries) name := by
  induction entries generalizing s with
  | nil => exact (add_zero _).symm
  | cons entry entries ih =>
    cases added : s.add? entry.1 entry.2 with
    | some next =>
      have head : written (entry :: next.taken entries) name =
          (if entry.1 = name then entry.2 else 0) + written (next.taken entries) name := rfl
      rw [taken_cons_of_some added, addAll_cons_of_some added, ih, total_of_add? added, head]
      split
      · rename_i same
        rw [same, add_assoc]
      · rw [zero_add]
    | none =>
      rw [taken_cons_of_none added, addAll_cons_of_none added]
      exact (add_zero _).symm

theorem total_addAll_of_takes (all : s.takes entries = true) (name : String) :
    (s.addAll entries).total name = s.total name + written entries name := by
  rw [total_addAll, takes_iff_taken_eq.1 all]

theorem calls_addAll (s : Store) (entries : List (String × Int)) :
    (s.addAll entries).calls = s.calls + (s.taken entries).length := by
  induction entries generalizing s with
  | nil => rfl
  | cons entry entries ih =>
    cases added : s.add? entry.1 entry.2 with
    | some next =>
      rw [taken_cons_of_some added, addAll_cons_of_some added, ih, calls_of_add? added,
        List.length_cons]
      omega
    | none =>
      rw [taken_cons_of_none added, addAll_cons_of_none added]
      rfl

theorem calls_addAll_of_takes (all : s.takes entries = true) :
    (s.addAll entries).calls = s.calls + entries.length := by
  rw [calls_addAll, takes_iff_taken_eq.1 all]

/-- The total under a name stays if nothing is written under it. -/
theorem get?_addAll_of_notMem (h : name ∉ entries.map Prod.fst) :
    (s.addAll entries).get? name = s.get? name := by
  induction entries generalizing s with
  | nil => rfl
  | cons entry entries ih =>
    rw [List.map_cons, List.mem_cons, not_or] at h
    obtain ⟨different, later⟩ := h
    cases added : s.add? entry.1 entry.2 with
    | some next =>
      rw [addAll_cons_of_some added, ih later, get?_of_add? added, if_neg (Ne.symm different)]
    | none => rw [addAll_cons_of_none added]

/-- The total under a name stays if nothing is taken under it. -/
theorem get?_addAll_of_notMem_taken (h : name ∉ (s.taken entries).map Prod.fst) :
    (s.addAll entries).get? name = s.get? name := by
  rw [← addAll_taken, get?_addAll_of_notMem h]

/-- If no name comes twice, every amount that is taken is added to the total under its name once. -/
theorem get?_addAll_of_mem (distinct : (entries.map Prod.fst).Nodup) {amount : Int}
    (h : (name, amount) ∈ s.taken entries) :
    (s.addAll entries).get? name = some (s.total name + amount) := by
  induction entries generalizing s with
  | nil => cases h
  | cons entry entries ih =>
    rw [List.map_cons, List.nodup_cons] at distinct
    obtain ⟨first, distinct⟩ := distinct
    cases added : s.add? entry.1 entry.2 with
    | none =>
      rw [taken_cons_of_none added] at h
      cases h
    | some next =>
      rw [taken_cons_of_some added] at h
      rw [addAll_cons_of_some added]
      rcases List.mem_cons.1 h with rfl | later
      · rw [get?_addAll_of_notMem first, get?_of_add? added, if_pos rfl]
      · have different : entry.1 ≠ name := by
          rintro rfl
          exact first (List.mem_map.2 ⟨_, (next.prefix_taken entries).subset later, rfl⟩)
        rw [ih distinct later, total_of_add? added, if_neg different]

/-! ### One part after another -/

theorem addAll_append_of_takes (all : s.takes entries = true) (more : List (String × Int)) :
    s.addAll (entries ++ more) = (s.addAll entries).addAll more := by
  induction entries generalizing s with
  | nil => rfl
  | cons entry entries ih =>
    cases added : s.add? entry.1 entry.2 with
    | some next =>
      rw [takes_cons_of_some added] at all
      rw [List.cons_append, addAll_cons_of_some added, addAll_cons_of_some added, ih all]
    | none =>
      rw [takes_cons_of_none added] at all
      cases all

theorem takes_append (s : Store) (entries more : List (String × Int)) :
    s.takes (entries ++ more) = (s.takes entries && (s.addAll entries).takes more) := by
  induction entries generalizing s with
  | nil => rfl
  | cons entry entries ih =>
    rw [List.cons_append]
    cases added : s.add? entry.1 entry.2 with
    | some next =>
      rw [takes_cons_of_some added, takes_cons_of_some added, addAll_cons_of_some added, ih]
    | none => rw [takes_cons_of_none added, takes_cons_of_none added, Bool.false_and]

/-! ### When everything is taken -/

/-- Amounts under different names are all taken if and only if each of them fits. -/
theorem takes_iff (distinct : (entries.map Prod.fst).Nodup) : s.takes entries = true ↔
    ∀ entry ∈ entries, Signed64.Fits (s.total entry.1 + entry.2) := by
  induction entries generalizing s with
  | nil => exact iff_of_true rfl nofun
  | cons entry entries ih =>
    rw [List.map_cons, List.nodup_cons] at distinct
    obtain ⟨first, distinct⟩ := distinct
    rw [List.forall_mem_cons]
    cases added : s.add? entry.1 entry.2 with
    | some next =>
      have others : ∀ other ∈ entries, next.total other.1 = s.total other.1 := by
        intro other ho
        have different : entry.1 ≠ other.1 := fun same =>
          first (same ▸ List.mem_map_of_mem ho)
        rw [total_of_add? added, if_neg different]
      rw [takes_cons_of_some added, ih distinct, and_iff_right (of_add? added).1]
      exact forall₂_congr fun other ho => by rw [others other ho]
    | none =>
      rw [takes_cons_of_none added]
      exact iff_of_false Bool.false_ne_true fun all => add?_eq_none_iff.1 added all.1

/-! ### Totals of 64 bits -/

/-- Every total has 64 bits. -/
def Fits (s : Store) : Prop :=
  ∀ name, Signed64.Fits (s.total name)

theorem fits_empty : empty.Fits :=
  fun name => (total_empty name).symm ▸ Signed64.fits_zero

theorem Fits.addAll (h : s.Fits) (entries : List (String × Int)) : (s.addAll entries).Fits := by
  induction entries generalizing s with
  | nil => exact h
  | cons entry entries ih =>
    cases added : s.add? entry.1 entry.2 with
    | some next =>
      rw [addAll_cons_of_some added]
      refine ih fun name => ?_
      rw [total_of_add? added]
      split
      · exact (of_add? added).1
      · exact h name
    | none =>
      rw [addAll_cons_of_none added]
      exact h

end Store

end TaskLedger
