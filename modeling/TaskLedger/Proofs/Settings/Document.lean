import Mathlib
import TaskLedger.Proofs.Settings.Same
import TaskLedger.Proofs.Toml.Building

/-!
# The document of settings

The sections of a listing are put together to its members, `Settings.Listing.nodes`: the members in
front of the sinks, the tables of sinks, and the levels in a table that their headers imply
(`document?_toToml`).
-/

namespace TaskLedger.Settings

open Toml Toml.Write

/-! ### The members -/

/-- The members of a sink. -/
def SinkListing.nodes (sink : SinkListing) : Members := [
  ("name", .scalar (.text sink.name)), ("sink_type", .scalar (.text sink.form.name)),
  ("params", .table .opened (Write.nodes (sink.params.map fun (key, value) =>
    (key, .text value))))]

/-- The levels of a kind. -/
def levelsNode (levels : List (String × Level)) : Node :=
  .table .opened (Write.nodes (levels.map fun (key, level) => (key, .text level.name)))

/-- The members of the document itself, with or without sinks. -/
def ownEntries (empty : Bool) : List (String × Value) :=
  ("version", .text version) :: if empty then [("sinks", .emptyList)] else []

/-- The members of the crew. -/
def crewEntries (crew : CrewSettings) : List (String × Value) := [
  ("min_workers", .natural crew.minWorkers.toNat),
  ("max_workers", .natural crew.maxWorkers.toNat),
  ("idle_timeout_secs", .natural crew.idleSeconds.toNat),
  ("thread_name_prefix", .text crew.namePrefix)]

namespace Listing

/-- The members in front of the tables of sinks. -/
def frontNodes (l : Listing) : Members :=
  Write.nodes (ownEntries l.sinks.isEmpty) ++
    [("pool", .table .opened (Write.nodes (crewEntries l.crew)))] ++
    [("flush", .table .opened (Write.nodes [("interval_ms", .natural l.flushMillis.toNat)]))]

/-- The members of settings. -/
def nodes (l : Listing) : Members :=
  l.frontNodes ++ Members.listed "sinks" (l.sinks.map SinkListing.nodes) ++ [("categories",
    .table .implied (Kind.all.map fun kind => (kind.name, levelsNode (l.levels kind))))]

end Listing

/-! ### Distinct keys -/

/-- No key stands twice among the parameters of a sink or the levels of a kind. -/
structure Listing.Distinct (l : Listing) : Prop where
  params : ∀ sink ∈ l.sinks, (sink.params.map Prod.fst).Nodup
  levels : ∀ k, ((l.levels k).map Prod.fst).Nodup

theorem nodup_of_perm_toList {α : Type} {entries : List (String × α)} {m : Std.TreeMap String α}
    (h : entries.Perm m.toList) : (entries.map Prod.fst).Nodup := by
  rw [(h.map Prod.fst).nodup_iff, Std.TreeMap.map_fst_toList_eq_keys]
  exact Std.TreeMap.nodup_keys

theorem Listing.Lists.distinct {l : Listing} {s : Settings} (h : l.Lists s) : l.Distinct where
  params sink mem := by
    obtain ⟨i, bound, rfl⟩ := List.getElem_of_mem mem
    exact nodup_of_perm_toList (h.sinks.get bound (h.sinks.length_eq ▸ bound)).params
  levels k := nodup_of_perm_toList (h.levels k)

theorem nodup_texts {α : Type} {entries : List (String × α)} (h : (entries.map Prod.fst).Nodup)
    (value : α → String) :
    ((entries.map fun (key, a) => (key, Value.text (value a))).map Prod.fst).Nodup := by
  rwa [List.map_map]

/-! ### Section by section -/

theorem add_append {first later : List Statement} {a b c : Draft}
    (h : first.foldlM Draft.add? a = some b) (h' : later.foldlM Draft.add? b = some c) :
    (first ++ later).foldlM Draft.add? a = some c := by
  rw [List.foldlM_append, h]
  exact h'

/-- One more sink. -/
theorem add_sink {before : Members} (new : before.find? "sinks" = none) (items : List Members)
    {sink : SinkListing} (distinct : (sink.params.map Prod.fst).Nodup)
    (current : Option (List String × String)) :
    (sink.sections.flatMap Write.Section.statements).foldlM Draft.add?
      ⟨before ++ Members.listed "sinks" items, current⟩ =
        some ⟨before ++ [("sinks", .tables (items ++ [sink.nodes]))],
          some (["sinks"], "params")⟩ := by
  have new_params : Members.find? (Write.nodes [("name", .text sink.name),
      ("sink_type", .text sink.form.name)]) "params" = none := rfl
  have params := (Focus.whole.item new items).add_table new_params (nodup_texts distinct id)
    (some ([], "sinks"))
  rw [SinkListing.sections, List.flatMap_cons, List.flatMap_singleton]
  refine add_append (Focus.whole.add_item new items ?_ current) params
  exact (show ["name", "sink_type"].Nodup by decide)

/-- All sinks. -/
theorem add_sinks {before : Members} (new : before.find? "sinks" = none) (items : List Members)
    {sinks : List SinkListing} (distinct : ∀ sink ∈ sinks, (sink.params.map Prod.fst).Nodup)
    (current : Option (List String × String)) :
    ∃ last, ((sinks.flatMap SinkListing.sections).flatMap Write.Section.statements).foldlM
      Draft.add? ⟨before ++ Members.listed "sinks" items, current⟩ =
        some ⟨before ++ Members.listed "sinks" (items ++ sinks.map SinkListing.nodes), last⟩ := by
  induction sinks generalizing items current with
  | nil => exact ⟨current, by rw [List.map_nil, List.append_nil]; rfl⟩
  | cons sink sinks ih =>
    rw [List.forall_mem_cons] at distinct
    have here := add_sink new items distinct.1 current
    rw [← Members.listed_append] at here
    obtain ⟨last, later⟩ := ih (items ++ [sink.nodes]) distinct.2 (some (["sinks"], "params"))
    refine ⟨last, ?_⟩
    rw [List.flatMap_cons, List.flatMap_append, List.map_cons, List.append_cons]
    exact add_append here later

/-- The levels of both kinds. -/
theorem add_levels {before : Members} (new : before.find? "categories" = none)
    {levels : Kind → List (String × Level)} (distinct : ∀ k, ((levels k).map Prod.fst).Nodup)
    (current : Option (List String × String)) :
    ((Kind.all.map fun kind => levelsSection kind (levels kind)).flatMap
      Write.Section.statements).foldlM Draft.add? ⟨before, current⟩ =
        some ⟨before ++ [("categories", .table .implied
          (Kind.all.map fun kind => (kind.name, levelsNode (levels kind))))],
          some (["categories"], "croner")⟩ := by
  have place := Focus.whole.table new (show Standing.implied ≠ .inline by decide)
  have new_croner : Members.find? [("runner", levelsNode (levels .runner))] "croner" = none := rfl
  have runner := Focus.whole.add_implied new "runner"
    (nodup_texts (distinct .runner) Level.name) current
  have croner := place.add_table new_croner (nodup_texts (distinct .croner) Level.name)
    (some (["categories"], "runner"))
  exact add_append runner (add_append croner rfl)

/-- The members in front of the sinks, from the first three sections. -/
theorem add_front (l : Listing) :
    ((l.sections.take 3).flatMap Write.Section.statements).foldlM Draft.add? ⟨[], none⟩ =
      some ⟨l.frontNodes, some ([], "flush")⟩ := by
  have own (empty : Bool) : ((ownEntries empty).map Prod.fst).Nodup := by
    cases empty <;> decide
  have crew : ((crewEntries l.crew).map Prod.fst).Nodup :=
    show ["min_workers", "max_workers", "idle_timeout_secs", "thread_name_prefix"].Nodup by decide
  have flush : ([("interval_ms", Write.Value.natural l.flushMillis.toNat)].map Prod.fst).Nodup :=
    List.nodup_singleton _
  have new_crew (empty : Bool) : Members.find? (Write.nodes (ownEntries empty)) "pool" = none := by
    cases empty <;> rfl
  have new_flush (empty : Bool) (node : Node) :
      Members.find? (Write.nodes (ownEntries empty) ++ [("pool", node)]) "flush" = none := by
    cases empty <;> rfl
  exact add_append (Focus.add_whole (own _)) <|
    add_append (Focus.whole.add_table (new_crew _) crew none) <|
    add_append (Focus.whole.add_table (new_flush _ _) flush (some ([], "pool"))) rfl

/-! ### The whole document -/

theorem fits_text (text : String) : (Value.text text).Fits := trivial

theorem fits_word (n : UInt64) : (Value.natural n.toNat).Fits := n.toNat_lt

/-- All numbers have at most 64 bits, and all paths are short. -/
theorem fits_sections (l : Listing) : ∀ part ∈ l.sections, part.Fits := by
  have entries (path : List String) (short : path ≠ [] ∧ path.length ≤ maxKeys) {α : Type}
      (entries : List (String × α)) (value : α → String) : Write.Section.Fits
        ⟨.table path, entries.map fun (key, a) => (key, .text (value a))⟩ := by
    refine ⟨short, fun member mem => ?_⟩
    obtain ⟨entry, -, rfl⟩ := List.mem_map.1 mem
    exact fits_text _
  have sinks (part : Write.Section) (mem : part ∈ l.sinks.flatMap SinkListing.sections) :
      part.Fits := by
    obtain ⟨sink, -, mem⟩ := List.mem_flatMap.1 mem
    rw [SinkListing.sections, List.mem_pair] at mem
    obtain rfl | rfl := mem
    · exact ⟨by simp [Write.Header.Fits, maxKeys], by simp [fits_text]⟩
    · exact entries ["sinks", "params"] (by simp [maxKeys]) sink.params id
  have levels (part : Write.Section)
      (mem : part ∈ Kind.all.map fun kind => levelsSection kind (l.levels kind)) : part.Fits := by
    obtain ⟨kind, -, rfl⟩ := List.mem_map.1 mem
    exact entries ["categories", kind.name] (by simp [maxKeys]) (l.levels kind) Level.name
  intro part mem
  rw [Listing.sections, List.mem_append, List.mem_append] at mem
  rcases mem with (mem | mem) | mem
  · simp only [List.mem_cons, List.not_mem_nil, or_false] at mem
    rcases mem with rfl | rfl | rfl
    · refine ⟨trivial, ?_⟩
      cases l.sinks.isEmpty <;> simp [Write.Value.Fits]
    · exact ⟨by simp [Write.Header.Fits, maxKeys], by simp [fits_word, fits_text]⟩
    · exact ⟨by simp [Write.Header.Fits, maxKeys], by simp [fits_word]⟩
  · exact sinks part mem
  · exact levels part mem

/-- A written document is put together to the members of the settings. -/
theorem document?_toToml {l : Listing} (distinct : l.Distinct) :
    document? l.toToml = some l.nodes := by
  have parts : l.sections = l.sections.take 3 ++ l.sinks.flatMap SinkListing.sections ++
      Kind.all.map fun kind => levelsSection kind (l.levels kind) := rfl
  obtain ⟨last, sinks⟩ : ∃ last, ((l.sinks.flatMap SinkListing.sections).flatMap
      Write.Section.statements).foldlM Draft.add? ⟨l.frontNodes, some ([], "flush")⟩ =
        some ⟨l.frontNodes ++ Members.listed "sinks" (l.sinks.map SinkListing.nodes), last⟩ := by
    cases sinks : l.sinks with
    | nil => exact ⟨_, by rw [List.map_nil, Members.listed, List.append_nil]; rfl⟩
    | cons sink rest =>
      have new : l.frontNodes.find? "sinks" = none := by
        rw [Listing.frontNodes, sinks]
        rfl
      have all := add_sinks new [] (sinks ▸ distinct.params) (some ([], "flush"))
      rwa [Members.listed, List.append_nil, List.nil_append] at all
  have new : Members.find? (l.frontNodes ++
      Members.listed "sinks" (l.sinks.map SinkListing.nodes)) "categories" = none := by
    rw [Listing.frontNodes]
    cases l.sinks <;> rfl
  rw [Listing.toToml, document?_document (fits_sections l), parts, List.flatMap_append,
    List.flatMap_append, add_append (add_append (add_front l) sinks)
      (add_levels new distinct.levels last)]
  rfl

end TaskLedger.Settings
