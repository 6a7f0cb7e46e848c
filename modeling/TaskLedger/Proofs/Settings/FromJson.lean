import Mathlib
import TaskLedger.Proofs.Json.Reading
import TaskLedger.Proofs.Settings.Same
import TaskLedger.Settings.FromJson
import TaskLedger.Settings.Text

/-!
# Settings are read back from JSON

The fields of settings take the members of a listing, in their order: `Settings.reads_tree`.
Levels and parameters are filled from their entries.
-/

namespace TaskLedger.Settings

open Json

theorem reads_word (n : UInt64) : Reads (ε := Empty) wordReader (.natural n.toNat) n := by
  have read := reads_map (reads_natural (ε := Empty) le_rfl n.toNat_lt) UInt64.ofNat
  rwa [UInt64.ofNat_toNat] at read

theorem reads_levels (levels : List (String × Level)) :
    Reads (ε := Empty) levelsReader (levelsTree levels) (filled levels) := by
  refine reads_dictionary ?_ ∅
  refine List.forall₂_map_left_iff.2 (List.forall₂_same.2 fun entry _ => ⟨rfl, ?_⟩)
  exact reads_variant (Level.ofName?_name entry.2)

theorem reads_params (params : List (String × String)) : Reads (ε := Empty) paramsReader
    (.object (params.map fun (key, value) => (key, .text value))) (filled params) := by
  refine reads_dictionary ?_ ∅
  exact List.forall₂_map_left_iff.2
    (List.forall₂_same.2 fun entry _ => ⟨rfl, reads_text entry.2⟩)

theorem reads_sink (l : SinkListing) : Reads (ε := Empty) sinkReader l.tree l.sink := by
  refine reads_record (by decide) ?_
  exact .of (reads_text _) <| .of (reads_variant l.form.ofName?_name) <|
    .of (reads_params _) .nil

theorem reads_tree (l : Listing) : Reads (ε := Empty) reader l.tree l.settings := by
  have crew : Reads (ε := Empty) (record crewFields {}) (.object [
      ("min_workers", .natural l.crew.minWorkers.toNat),
      ("max_workers", .natural l.crew.maxWorkers.toNat),
      ("idle_timeout_secs", .natural l.crew.idleSeconds.toNat),
      ("thread_name_prefix", .text l.crew.namePrefix)]) l.crew := by
    refine reads_record (by decide) ?_
    exact .of (reads_word _) <| .of (reads_word _) <| .of (reads_word _) <|
      .of (reads_text _) .nil
  have flush : Reads (ε := Empty) (record flushFields ({} : Settings).flushMillis)
      (.object [("interval_ms", .natural l.flushMillis.toNat)]) l.flushMillis := by
    refine reads_record (by decide) ?_
    exact .of (reads_word _) .nil
  have sinks : Reads (ε := Empty) (sequence sinkReader) (.list (l.sinks.map SinkListing.tree))
      (l.sinks.map SinkListing.sink) := by
    refine reads_sequence (List.forall₂_map_left_iff.2 (List.forall₂_map_right_iff.2 ?_))
    exact List.forall₂_same.2 fun sink _ => reads_sink sink
  have categories : Reads (ε := Empty) (record categoryFields (∅, ∅))
      (.object (Kind.all.map fun kind => (kind.name, levelsTree (l.levels kind))))
      (filled (l.levels .runner), filled (l.levels .croner)) := by
    refine reads_record (by decide) ?_
    exact .of (reads_levels _) <| .of (reads_levels _) .nil
  refine reads_record (by decide) ?_
  exact .of (reads_variant (if_pos rfl)) <| .of crew <| .of flush <| .of sinks <|
    .of categories .nil

/-- The settings of a listing are read back from JSON. -/
theorem ofJson_toJson (l : Listing) : ofJson l.toJson = .ok l.settings :=
  document_eq (reads_tree l) (l.tree.spelled_pretty 0)

end TaskLedger.Settings
