import Mathlib
import TaskLedger.Proofs.Files
import TaskLedger.Proofs.Settings.FromJson
import TaskLedger.Proofs.Settings.FromToml
import TaskLedger.Settings.Load

/-!
# Settings are read back from either format

Settings that were accepted break no rule, so what either format says about them is accepted again:
`Settings.read_back`.
-/

namespace TaskLedger.Settings

/-- Settings that were accepted are those that were looked at, and break no rule. -/
theorem validated_eq_ok_iff {s t : Settings} :
    t.validated = .ok s ↔ t = s ∧ s.check = none := by
  rw [validated]
  split
  · rename_i passed
    rw [Except.ok.injEq, and_iff_left_of_imp]
    rintro rfl
    exact passed
  · rename_i violation broken
    refine iff_of_false nofun ?_
    rintro ⟨rfl, passed⟩
    rw [broken] at passed
    cases passed

theorem check_of_ofText {format : SettingsFormat} {text : String} {s : Settings}
    (h : ofText format text = .ok s) : s.check = none := by
  obtain ⟨t, -, passed⟩ := exists_of_bind_eq_ok h
  exact (validated_eq_ok_iff.1 passed).2

/-- Any listing of valid settings is read back from either format as the same settings. -/
theorem ofText_listing {s : Settings} (valid : s.check = none) {l : Listing} (h : l.Lists s) :
    ∃ t : Settings, t.Same s ∧ ofText .json l.toJson = .ok t ∧ ofText .toml l.toToml = .ok t := by
  have accepted : validated l.settings = .ok l.settings :=
    validated_eq_ok_iff.2 ⟨rfl, h.same.check_eq.trans valid⟩
  refine ⟨l.settings, h.same, ?_, ?_⟩
  · rw [ofText, parse, ofJson_toJson]
    exact accepted
  · simp only [ofText, parse, ofToml?_toToml h.distinct]
    exact accepted

/-- **Settings are read back from either format.**  Whatever text settings were accepted from, both
texts that are written for them are accepted, and stand for one and the same settings that are the
same as these: with levels and parameters in the order of their keys, or in any other order. -/
theorem read_back {format : SettingsFormat} {text : String} {s : Settings}
    (h : ofText format text = .ok s) :
    (∃ t : Settings, t.Same s ∧ ofText .json s.toJson = .ok t ∧ ofText .toml s.toToml = .ok t) ∧
      ∀ l : Listing, l.Lists s →
        ∃ t : Settings, t.Same s ∧ ofText .json l.toJson = .ok t ∧
          ofText .toml l.toToml = .ok t := by
  have valid := check_of_ofText h
  constructor
  · exact ofText_listing valid (lists_listing s)
  · intro l order
    exact ofText_listing valid order

/-- Settings whose name, parameters and classes all need quotes, or escapes. -/
def oddText : String :=
  "[[sinks]]\nname = 'a\"b'\nsink_type = 'file'\n[sinks.params]\n'' = \"x\\ny\"\n" ++
    "[categories.runner]\n'a.b' = 'none'\n'#' = 'record'\n"

theorem read_back_of_oddText : ∃ s : Settings, ofText .toml oddText = .ok s ∧
    s.sinks.map (fun sink => (sink.name, sink.params.toList)) = [("a\"b", [("", "x\ny")])] ∧
    s.runnerLevels.toList = [("#", .record), ("a.b", .nothing)] ∧
    (∃ t : Settings, t.Same s ∧ ofText .json s.toJson = .ok t ∧ ofText .toml s.toToml = .ok t) ∧
    ∀ l : Listing, l.Lists s →
      ∃ t : Settings, t.Same s ∧ ofText .json l.toJson = .ok t ∧ ofText .toml l.toToml = .ok t := by
  have loaded : (ofText .toml oddText).toOption.map (fun s =>
      (s.sinks.map (fun sink => (sink.name, sink.params.toList)), s.runnerLevels.toList)) =
        some ([("a\"b", [("", "x\ny")])], [("#", .record), ("a.b", .nothing)]) := by
    decide +kernel
  obtain ⟨s, found, shape⟩ := Option.map_eq_some_iff.1 loaded
  have accepted : ofText .toml oddText = .ok s := by
    cases text : ofText .toml oddText with
    | error fault => rw [text] at found; cases found
    | ok t => rw [text] at found; cases found; rfl
  exact ⟨s, accepted, congrArg Prod.fst shape, congrArg Prod.snd shape, read_back accepted⟩

end TaskLedger.Settings
