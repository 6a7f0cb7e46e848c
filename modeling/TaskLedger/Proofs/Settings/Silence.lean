import Mathlib
import TaskLedger.Proofs.Selection
import TaskLedger.Settings.Check
import TaskLedger.Settings.Warning

/-!
# What the warnings say about levels

The warnings name the classes whose level is the lowest one, and say of them that none of their
records is shipped.  That is so for every class that is not blank.  Records of a blank class are
always shipped, whatever its level; if one has the lowest level, it is named with the others, and
another warning says that it is ignored.

* `Settings.toldSilent`: the classes that the warnings name, and `Settings.Silent`: those of which
  no record is shipped;
* `Settings.mem_toldSilent` and `Settings.silent_iff` say both in terms of the levels;
* `Settings.silence_told` compares the two.
-/

namespace TaskLedger

/-- The silenced classes are those that have the lowest level. -/
theorem Levels.mem_silenced {levels : Levels} {taskClass : String} :
    taskClass ∈ levels.silenced ↔ levels[taskClass]? = some .nothing := by
  rw [silenced, List.mem_map]
  constructor
  · rintro ⟨⟨taskClass, level⟩, quiet, rfl⟩
    obtain ⟨set, none⟩ := List.mem_filter.1 quiet
    have lowest : level = .nothing := by
      rw [← Level.ships_eq_false_iff]
      simpa using none
    rw [← lowest]
    exact Std.TreeMap.mem_toList_iff_getElem?_eq_some.1 set
  · intro set
    refine ⟨(taskClass, .nothing), List.mem_filter.2 ⟨?_, rfl⟩, rfl⟩
    exact Std.TreeMap.mem_toList_iff_getElem?_eq_some.2 set

/-- Records are kept from being shipped by the lowest level of a class that is not blank. -/
theorem Levels.ship_eq_false_iff {levels : Levels} {taskClass : String} :
    levels.ship taskClass = false ↔
      Text.trim taskClass.toList ≠ [] ∧ levels[taskClass]? = some .nothing := by
  rw [ship, Lookup.ship, Bool.or_eq_false_iff, ← Bool.not_eq_true, Text.isBlankText_iff]
  refine and_congr_right fun _ => ?_
  rw [lookup]
  cases levels[taskClass]? with
  | none => simp
  | some level => simp [Level.ships_eq_false_iff]

/-- The kind whose levels a warning is about. -/
def Warning.kind? : Warning → Option Kind
  | blankClass kind => some kind
  | silenced kind _ => some kind
  | _ => none

namespace Settings

variable (s : Settings) (k : Kind)

/-- The classes of which the warnings say that no record is shipped. -/
def toldSilent : List String :=
  s.warnings.flatMap fun
    | .silenced kind classes => if kind = k then classes else []
    | _ => []

/-- No record of a class is shipped. -/
def Silent (taskClass : String) : Prop :=
  ∀ r : Record k, r.taskClass = taskClass → (s.levels k).ship r.taskClass = false

variable {s k}

/-- There are records of every class. -/
theorem silent_iff {taskClass : String} :
    s.Silent k taskClass ↔
      Text.trim taskClass.toList ≠ [] ∧ (s.levels k)[taskClass]? = some .nothing := by
  have some : ∃ r : Record k, r.taskClass = taskClass := by
    cases k with
    | runner => exact ⟨{ taskClass, state := .success }, rfl⟩
    | croner => exact ⟨{ taskClass, state := .success }, rfl⟩
  rw [← Levels.ship_eq_false_iff]
  constructor
  · intro silent
    obtain ⟨r, rfl⟩ := some
    exact silent r rfl
  · rintro quiet r rfl
    exact quiet

theorem kind?_of_mem_levelWarnings {w : Warning} (among : w ∈ s.levelWarnings k) :
    w.kind? = some k := by
  rw [levelWarnings, List.mem_append] at among
  rcases among with blank | silenced
  · split at blank
    · rw [List.mem_singleton.1 blank]
      rfl
    · cases blank
  · split at silenced
    · cases silenced
    · rw [List.mem_singleton.1 silenced]
      rfl

/-- A warning about the levels of a kind stands among those for this kind. -/
theorem mem_warnings_iff {w : Warning} (about : w.kind? = some k) :
    w ∈ s.warnings ↔ w ∈ s.levelWarnings k := by
  have other : w ∉ (if s.sinks.isEmpty then [.noSinks] else []) ++
      (if s.crew.minWorkers = 0 then [.noneStay] else []) ++ s.sinkWarnings := by
    cases w <;> simp_all [Warning.kind?, sinkWarnings]
  rw [warnings, List.mem_append, or_iff_right other, List.mem_flatMap]
  constructor
  · rintro ⟨j, -, among⟩
    obtain rfl : j = k := Option.some.inj ((kind?_of_mem_levelWarnings among).symm.trans about)
    exact among
  · intro among
    exact ⟨k, k.mem_all, among⟩

/-- There is a warning that names silenced classes if there are any, and it names all of them. -/
theorem silenced_mem_warnings {classes : List String} :
    .silenced k classes ∈ s.warnings ↔
      classes = (s.levels k).silenced ∧ (s.levels k).silenced ≠ [] := by
  rw [mem_warnings_iff rfl, levelWarnings]
  by_cases nothing : (s.levels k).silenced = []
  · simp [nothing]
  · simp [nothing]

theorem blankClass_mem_warnings :
    .blankClass k ∈ s.warnings ↔ ∃ taskClass ∈ (s.levels k).keys,
      Text.trim taskClass.toList = [] := by
  rw [mem_warnings_iff rfl, levelWarnings, Levels.anyBlank]
  simp only [← Text.isBlankText_iff]
  by_cases nothing : (s.levels k).silenced = []
  · simp [nothing]
  · simp [nothing]

theorem mem_toldSilent {taskClass : String} :
    taskClass ∈ s.toldSilent k ↔ (s.levels k)[taskClass]? = some .nothing := by
  rw [← Levels.mem_silenced, toldSilent, List.mem_flatMap]
  constructor
  · rintro ⟨w, among, named⟩
    split at named
    · split at named
      · rename_i same
        subst same
        exact (silenced_mem_warnings.1 among).1 ▸ named
      · cases named
    · cases named
  · intro quiet
    refine ⟨.silenced k (s.levels k).silenced,
      silenced_mem_warnings.2 ⟨rfl, List.ne_nil_of_mem quiet⟩, ?_⟩
    simpa using quiet

/-- **Which classes are said to be silent.**  No record of a class is shipped if and only if the
warnings name the class and it is not blank.  There is a warning that names classes exactly if there
is a class to name.  If a blank class is named, another warning says that a blank class is ignored.
So exactly the silent classes are named if and only if no blank class has the lowest level. -/
theorem silence_told (s : Settings) (k : Kind) :
    (∀ taskClass : String, s.Silent k taskClass ↔
      taskClass ∈ s.toldSilent k ∧ Text.trim taskClass.toList ≠ []) ∧
    ((∃ classes, .silenced k classes ∈ s.warnings) ↔ s.toldSilent k ≠ []) ∧
    (∀ taskClass ∈ s.toldSilent k, Text.trim taskClass.toList = [] →
      .blankClass k ∈ s.warnings) ∧
    ((∀ taskClass, taskClass ∈ s.toldSilent k ↔ s.Silent k taskClass) ↔
      ∀ taskClass : String, Text.trim taskClass.toList = [] →
        (s.levels k)[taskClass]? ≠ some .nothing) := by
  have silent : ∀ taskClass : String, s.Silent k taskClass ↔
      taskClass ∈ s.toldSilent k ∧ Text.trim taskClass.toList ≠ [] := by
    intro taskClass
    rw [silent_iff, mem_toldSilent, and_comm]
  refine ⟨silent, ⟨?_, ?_⟩, ?_, ⟨?_, ?_⟩⟩
  · rintro ⟨classes, among⟩
    obtain ⟨-, some⟩ := silenced_mem_warnings.1 among
    obtain ⟨taskClass, quiet⟩ := List.exists_mem_of_ne_nil _ some
    exact List.ne_nil_of_mem (mem_toldSilent.2 (Levels.mem_silenced.1 quiet))
  · intro some
    obtain ⟨taskClass, told⟩ := List.exists_mem_of_ne_nil _ some
    have quiet := Levels.mem_silenced.2 (mem_toldSilent.1 told)
    exact ⟨_, silenced_mem_warnings.2 ⟨rfl, List.ne_nil_of_mem quiet⟩⟩
  · intro taskClass told blank
    have set : taskClass ∈ s.levels k :=
      Std.TreeMap.mem_iff_isSome_getElem?.2 (by rw [mem_toldSilent.1 told]; rfl)
    exact blankClass_mem_warnings.2 ⟨taskClass, Std.TreeMap.mem_keys.2 set, blank⟩
  · intro agree taskClass blank lowest
    exact ((silent taskClass).1 ((agree taskClass).1 (mem_toldSilent.2 lowest))).2 blank
  · intro others taskClass
    rw [silent, iff_self_and]
    intro told blank
    exact others taskClass blank (mem_toldSilent.1 told)

/-- Settings with the lowest level for a class of jobs and for the empty class. -/
def quietBlank : Settings where
  cronerLevels :=
    .ofList [("", Level.nothing), ("nightly", Level.nothing), ("hourly", Level.record)]

theorem silence_told_of_quietBlank :
    "" ∈ quietBlank.toldSilent .croner ∧ Text.trim "".toList = [] ∧
      .blankClass .croner ∈ quietBlank.warnings ∧ quietBlank.Silent .croner "nightly" := by
  have told : "" ∈ quietBlank.toldSilent .croner := by decide +kernel
  have blank : Text.trim "".toList = [] := by decide
  obtain ⟨silent, -, ignored, -⟩ := silence_told quietBlank .croner
  exact ⟨told, blank, ignored "" told blank, (silent "nightly").2 (by decide +kernel)⟩

/-- These settings are valid, and of the empty class it is said that its records are never shipped.
All of them are. -/
theorem empty_class_told_silent :
    quietBlank.check = none ∧
    Warning.silenced .croner ["", "nightly"] ∈ quietBlank.warnings ∧
    (Warning.silenced .croner ["", "nightly"]).message =
      "categories.croner: records of , nightly are counted but never shipped" ∧
    ∀ r : Record .croner, r.taskClass = "" →
      (quietBlank.levels .croner).ship r.taskClass = true := by
  refine ⟨by decide +kernel, by decide +kernel, by decide +kernel, fun r blank => ?_⟩
  rw [blank]
  decide +kernel

end Settings

end TaskLedger
