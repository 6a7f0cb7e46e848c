import Mathlib
import TaskLedger.Settings.Check
import TaskLedger.Settings.Text

/-!
# The same settings

Settings are the same when they agree in everything and their levels and parameters are the same
maps (`Settings.Same`).  The same settings break the same rules (`Settings.Same.check_eq`).

A map that is filled from a list of its entries, in any order, is the same map
(`equiv_of_perm_toList`).  So a listing of settings (`Settings.Listing.Lists`) stands for the same
settings (`Settings.Listing.Lists.same`).
-/

namespace TaskLedger

/-! ### Maps by their entries -/

section Entries

variable {α : Type} {m : Std.TreeMap String α} {entries : List (String × α)}

/-- The map with the given entries, of which the last one with a key counts. -/
def filled (entries : List (String × α)) : Std.TreeMap String α :=
  entries.foldl (fun made entry => made.insert entry.1 entry.2) ∅

/-- A map filled from its entries is the same map. -/
theorem equiv_of_perm_toList (h : entries.Perm m.toList) :
    (filled entries).Equiv m := by
  have distinct : entries.Pairwise fun a b => ¬ compare a.1 b.1 = .eq :=
    h.symm.pairwise Std.TreeMap.distinct_keys_toList fun differ same =>
      differ (Std.OrientedCmp.eq_symm same)
  have mem_iff {key : String} {value : α} : (key, value) ∈ entries ↔ m[key]? = some value :=
    h.mem_iff.trans Std.TreeMap.mem_toList_iff_getElem?_eq_some
  refine Std.TreeMap.ofList_equiv_foldl.symm.trans (.of_forall_constGet?_eq fun key => ?_)
  cases found : m[key]? with
  | none =>
    refine Std.TreeMap.getElem?_ofList_of_contains_eq_false ?_
    rw [List.contains_eq_mem, decide_eq_false_iff_not, List.mem_map]
    rintro ⟨⟨_, value⟩, mem, rfl⟩
    rw [mem_iff.1 mem] at found
    cases found
  | some value =>
    exact Std.TreeMap.getElem?_ofList_of_mem Std.ReflCmp.compare_self distinct (mem_iff.2 found)

end Entries

/-! ### Settings -/

/-- Sinks that agree, with the same parameters. -/
structure SinkSettings.Same (sink other : SinkSettings) : Prop where
  name : sink.name = other.name
  form : sink.form = other.form
  params : sink.params.Equiv other.params

/-- Settings that agree, with the same parameters and levels. -/
structure Settings.Same (s t : Settings) : Prop where
  crew : s.crew = t.crew
  flushMillis : s.flushMillis = t.flushMillis
  sinks : List.Forall₂ SinkSettings.Same s.sinks t.sinks
  levels : ∀ k, (s.levels k).Equiv (t.levels k)

namespace Settings

theorem checkSink_eq {sink other : SinkSettings} (h : sink.Same other) (index : Nat)
    (names : List String) : checkSink index names sink = checkSink index names other := by
  simp only [checkSink, checkNetwork, h.name, h.form, h.params.getElem?_eq]

theorem checkSinksFrom_eq {sinks others : List SinkSettings}
    (h : List.Forall₂ SinkSettings.Same sinks others) (index : Nat) (names : List String) :
    checkSinksFrom index names sinks = checkSinksFrom index names others := by
  induction h generalizing index names with
  | nil => rfl
  | cons here later ih => simp only [checkSinksFrom, checkSink_eq here, here.name, ih]

/-- The same settings break the same rules. -/
theorem Same.check_eq {s t : Settings} (h : s.Same t) : s.check = t.check := by
  simp only [check, h.crew, h.flushMillis, checkSinksFrom_eq h.sinks]

/-! ### Listings -/

/-- The sink that a listing stands for. -/
def SinkListing.sink (l : SinkListing) : SinkSettings :=
  ⟨l.name, l.form, filled l.params⟩

/-- The settings that a listing stands for. -/
def Listing.settings (l : Listing) : Settings where
  crew := l.crew
  flushMillis := l.flushMillis
  sinks := l.sinks.map SinkListing.sink
  runnerLevels := filled (l.levels .runner)
  cronerLevels := filled (l.levels .croner)

/-- A listing of a sink, its parameters in any order. -/
structure SinkListing.Lists (l : SinkListing) (sink : SinkSettings) : Prop where
  name : l.name = sink.name
  form : l.form = sink.form
  params : l.params.Perm sink.params.toList

/-- A listing of settings, all levels and parameters in any order. -/
structure Listing.Lists (l : Listing) (s : Settings) : Prop where
  crew : l.crew = s.crew
  flushMillis : l.flushMillis = s.flushMillis
  sinks : List.Forall₂ SinkListing.Lists l.sinks s.sinks
  levels : ∀ k, (l.levels k).Perm (s.levels k).toList

theorem lists_listing (s : Settings) : s.listing.Lists s where
  crew := rfl
  flushMillis := rfl
  sinks := List.forall₂_map_left_iff.2 (List.forall₂_same.2 fun _ _ => ⟨rfl, rfl, .refl _⟩)
  levels _ := .refl _

/-- A listing of settings stands for the same settings. -/
theorem Listing.Lists.same {l : Listing} {s : Settings} (h : l.Lists s) : l.settings.Same s where
  crew := h.crew
  flushMillis := h.flushMillis
  sinks := List.forall₂_map_left_iff.2
    (h.sinks.imp fun _ _ here => ⟨here.name, here.form, equiv_of_perm_toList here.params⟩)
  levels
    | .runner => equiv_of_perm_toList (h.levels .runner)
    | .croner => equiv_of_perm_toList (h.levels .croner)

end Settings

end TaskLedger
