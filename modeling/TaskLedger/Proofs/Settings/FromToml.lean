import Mathlib
import TaskLedger.Proofs.Settings.Document
import TaskLedger.Settings.FromToml

/-!
# Settings are read back from TOML

The fields of settings take the members of a document that a listing was written to:
`Settings.ofToml?_toToml`.  Levels and parameters are filled from their entries.
-/

namespace TaskLedger.Settings

open Toml

/-! ### Decoding -/

namespace Decode

variable {σ α : Type}

theorem word64_toNat (n : UInt64) : word64 (.scalar (.integer n.toNat)) = some n := by
  have small : (n.toNat : Int) < UInt64.size := Int.ofNat_lt.2 n.toNat_lt
  rw [word64, if_pos ⟨Int.natCast_nonneg _, small⟩, Int.toNat_natCast, UInt64.ofNat_toNat]

/-- A table with free keys: its entries are inserted in order. -/
theorem dictionary_table {insert : String → α → σ → σ} {decode : Decoder α} {members : Members}
    {entries : List (String × α)}
    (h : List.Forall₂ (fun member entry => member.1 = entry.1 ∧ decode member.2 = some entry.2)
      members entries) (empty : σ) (standing : Standing) :
    dictionary insert empty decode (.table standing members) =
      some (entries.foldl (fun made entry => insert entry.1 entry.2 made) empty) := by
  rw [dictionary, members?, Option.bind_eq_bind, Option.bind_some]
  induction h generalizing empty with
  | nil => rfl
  | @cons member entry _ _ here later ih =>
    obtain ⟨key, node⟩ := member
    obtain ⟨rfl, decoded⟩ := here
    simp only [List.foldlM_cons, decoded, Option.map_some, Option.bind_eq_bind, Option.bind_some]
    exact ih _

/-- A list of tables with a header each. -/
theorem sequence_tables {decode : Decoder α} {items : List Members} {values : List α}
    (h : List.Forall₂ (fun members a => decode (.table .opened members) = some a) items values) :
    sequence decode (.tables items) = some values := by
  rw [sequence, items?, Option.bind_eq_bind, Option.bind_some]
  induction h with
  | nil => rfl
  | cons here later ih =>
    rw [List.map_cons, List.mapM_cons, here, ih]
    rfl

/-- The fields of a table take the members with their names. -/
inductive Takes (members : Members) : List (TableField σ) → σ → σ → Prop
  | nil {made : σ} : Takes members [] made made
  | of {name : String} {required : Bool} {α : Type} {decode : Decoder α} {set : α → σ → σ}
      {fields : List (TableField σ)} {node : Node} {a : α} {made last : σ}
      (found : members.find? name = some node) (here : decode node = some a)
      (later : Takes members fields (set a made) last) :
      Takes members (.of name required decode set :: fields) made last

/-- A table of which the fields take all members. -/
theorem ofMembers_eq {fields : List (TableField σ)} {members : Members} {blank made : σ}
    (known : members.map Prod.fst ⊆ fields.map (·.name))
    (h : Takes members fields blank made) : ofMembers fields blank members = some made := by
  have admitted : members.all (isAdmitted fields) = true := by
    rw [List.all_eq_true]
    intro member mem
    obtain ⟨field, here, name⟩ := List.mem_map.1 (known (List.mem_map_of_mem mem))
    rw [isAdmitted, Bool.or_eq_true, List.any_eq_true]
    exact .inl ⟨field, here, beq_iff_eq.2 name⟩
  rw [ofMembers, admitted, Bool.not_true, if_neg Bool.false_ne_true]
  clear known admitted
  induction h with
  | nil => rfl
  | of found here later ih =>
    simp only [List.foldlM_cons, TableField.of, found, here, Option.map_some, Option.bind_eq_bind,
      Option.bind_some]
    exact ih

end Decode

/-! ### The settings of a written document -/

open Decode

theorem dictionary_nodes {α : Type} (entries : List (String × α)) (value : α → String)
    {decode : Decoder α} (h : ∀ a, decode (.scalar (.text (value a))) = some a) :
    dictionary (fun key a made => Std.TreeMap.insert made key a) (∅ : Std.TreeMap String α) decode
      (.table .opened (Write.nodes (entries.map fun (key, a) => (key, .text (value a))))) =
        some (filled entries) := by
  refine dictionary_table ?_ ∅ .opened
  rw [Write.nodes, List.map_map]
  exact List.forall₂_map_left_iff.2 (List.forall₂_same.2 fun entry _ => ⟨rfl, h entry.2⟩)

theorem record_sink (sink : SinkListing) :
    record sinkTable { name := "", form := .journal } (.table .opened sink.nodes) =
      some sink.sink :=
  ofMembers_eq (List.Subset.refl _) <| .of rfl rfl <| .of rfl sink.form.ofName?_name <|
    .of rfl (dictionary_nodes sink.params id fun _ => rfl) .nil

theorem levelsTable_levelsNode (levels : List (String × Level)) :
    levelsTable (levelsNode levels) = some (filled levels) :=
  dictionary_nodes levels Level.name Level.ofName?_name

theorem sequence_sinks (sinks : List SinkListing) :
    sequence (record sinkTable { name := "", form := .journal })
      (.tables (sinks.map SinkListing.nodes)) = some (sinks.map SinkListing.sink) := by
  refine sequence_tables (List.forall₂_map_left_iff.2 (List.forall₂_map_right_iff.2 ?_))
  exact List.forall₂_same.2 fun sink _ => record_sink sink

theorem ofMembers_nodes (l : Listing) : ofMembers table {} l.nodes = some l.settings := by
  have crew : record crewTable {} (.table .opened (Write.nodes (crewEntries l.crew))) =
      some l.crew :=
    ofMembers_eq (List.Subset.refl _) <| .of rfl (word64_toNat _) <| .of rfl (word64_toNat _) <|
      .of rfl (word64_toNat _) <| .of rfl rfl .nil
  have flush : record flushTable ({} : Settings).flushMillis (.table .opened
      (Write.nodes [("interval_ms", .natural l.flushMillis.toNat)])) = some l.flushMillis :=
    ofMembers_eq (List.Subset.refl _) <| .of rfl (word64_toNat _) .nil
  have categories : record categoryTable (∅, ∅) (.table .implied
      (Kind.all.map fun kind => (kind.name, levelsNode (l.levels kind)))) =
        some (filled (l.levels .runner), filled (l.levels .croner)) :=
    ofMembers_eq (List.Subset.refl _) <| .of rfl (levelsTable_levelsNode _) <|
      .of rfl (levelsTable_levelsNode _) .nil
  have known : l.nodes.map Prod.fst ⊆ table.map (·.name) := by
    rw [Listing.nodes, Listing.frontNodes]
    cases l.sinks with
    | nil =>
      exact (show ["version", "sinks", "pool", "flush", "categories"] ⊆ table.map (·.name)
        by decide)
    | cons =>
      exact (show ["version", "pool", "flush", "sinks", "categories"] ⊆ table.map (·.name)
        by decide)
  have pool : l.nodes.find? "pool" =
      some (.table .opened (Write.nodes (crewEntries l.crew))) := by
    rw [Listing.nodes, Listing.frontNodes]
    cases l.sinks <;> rfl
  have interval : l.nodes.find? "flush" = some (.table .opened
      (Write.nodes [("interval_ms", .natural l.flushMillis.toNat)])) := by
    rw [Listing.nodes, Listing.frontNodes]
    cases l.sinks <;> rfl
  have sinks : ∃ node, l.nodes.find? "sinks" = some node ∧
      sequence (record sinkTable { name := "", form := .journal }) node =
        some (l.sinks.map SinkListing.sink) := by
    rw [Listing.nodes, Listing.frontNodes]
    cases l.sinks with
    | nil => exact ⟨.list [], rfl, rfl⟩
    | cons sink sinks =>
      exact ⟨.tables ((sink :: sinks).map SinkListing.nodes), rfl, sequence_sinks _⟩
  have levels : l.nodes.find? "categories" = some (.table .implied
      (Kind.all.map fun kind => (kind.name, levelsNode (l.levels kind)))) := by
    rw [Listing.nodes, Listing.frontNodes]
    cases l.sinks <;> rfl
  have first : variant (fun s => if s = version then some () else none)
      (.scalar (.text version)) = some () := rfl
  obtain ⟨node, found, decoded⟩ := sinks
  exact ofMembers_eq known <| .of rfl first <| .of pool crew <| .of interval flush <|
    .of found decoded <| .of levels categories .nil

/-- The settings of a listing are read back from TOML. -/
theorem ofToml?_toToml {l : Listing} (distinct : l.Distinct) :
    ofToml? l.toToml = some l.settings := by
  rw [ofToml?, document?_toToml distinct, Option.bind_some, ofMembers_nodes]

end TaskLedger.Settings
