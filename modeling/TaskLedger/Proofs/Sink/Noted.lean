import Mathlib
import TaskLedger.Proofs.Sink.Turns

/-!
# Directories are made once

A file sink notes that it made the directory of a kind, and does not make it again.  A sink that
makes the directory before every write (`DayFile.persistAnew`) does the same as long as no directory
that was noted is taken away.  Where one is, the sink misses it and its writes fail, until somebody
else puts it back (`DayFile.removed_directory_is_missed`).

* `DayFile.Stranded`: the directory of a kind was noted and is not there;
* `DayFile.persist_of_stranded` and `DayFile.persist_of_not_stranded`: what a write does then, and
  what it does otherwise;
* `DayFile.noted_persist`: a write notes the directory exactly if it could be made;
* `noted_directories_are_transparent` puts this together.
-/

namespace TaskLedger

namespace DayFile

/-- What a sink would do with a batch that notes nothing, and makes the directory every time. -/
def persistAnew (name base : String) (batch : Batch) (w : World) : Delivery × World :=
  let (result, _, files) := write base w.today false batch w.files
  let w := { w with files }
  match result with
  | .ok () => ({}, w)
  | .error fault => ({ fault := some (.write name fault.message) }, w)

/-- A sink noted the directory of a kind, which is not there. -/
def Stranded (number : Nat) (base : String) (k : Kind) (w : World) : Prop :=
  (number, k) ∈ w.made ∧ ¬ w.files.Stands (directory base k)

variable {number : Nat} {name base : String} {k : Kind} {batch : Batch} {fs : Files} {w : World}

/-! ### One write -/

theorem prepare_of_stands {made : Bool} (stands : fs.Stands (directory base k)) :
    prepare base made k fs = (.ok (), fs) := by
  unfold prepare
  split_ifs
  · rfl
  · exact stands.makeDirectories

/-- Unless the directory is missed, it is the same to make it again. -/
theorem write_of_not_stranded (firm : ¬ Stranded number base batch.kind w) :
    write base w.today (w.made.contains (number, batch.kind)) batch w.files =
      write base w.today false batch w.files := by
  by_cases noted : (number, batch.kind) ∈ w.made
  · have stands : w.files.Stands (directory base batch.kind) :=
      not_not.1 fun missing => firm ⟨noted, missing⟩
    rw [write, write, prepare_of_stands stands, prepare_of_stands stands]
  · have first : w.made.contains (number, batch.kind) = false := by simpa using noted
    rw [first]

/-- A write does what it does when the directory is made every time, unless it is missed. -/
theorem persist_of_not_stranded (name : String) (firm : ¬ Stranded number base batch.kind w) :
    (persist number name base batch w).1 = (persistAnew name base batch w).1 ∧
      { (persist number name base batch w).2 with made := w.made } =
        (persistAnew name base batch w).2 := by
  unfold persist persistAnew
  rw [write_of_not_stranded firm]
  rcases write base w.today false batch w.files with ⟨_ | _, _, _⟩
  · exact ⟨rfl, rfl⟩
  · exact ⟨rfl, rfl⟩

/-- A write fails where the directory is missed, and changes no file. -/
theorem persist_of_stranded (name : String) (stranded : Stranded number base batch.kind w) :
    (persist number name base batch w).1.fault ≠ none ∧
      (persist number name base batch w).2.files = w.files := by
  have prepared := ready_of_noted base stranded.1
  cases added : w.files.append (path base batch.kind w.today) (lines batch.records) with
  | error fault =>
    rw [persist_of_refused prepared added]
    exact ⟨by simp, rfl⟩
  | ok next =>
    have located := (Files.append_eq_ok added).1
    exact absurd (Files.stands_of_locate (isName_day w.today) located) stranded.2

/-! ### What is noted -/

/-- The directory is noted once it is there, and every directory stays. -/
theorem persist_of_ready (name : String) (prepared : ready number base batch w = (.ok (), fs)) :
    (persist number name base batch w).2.made = (number, batch.kind) :: w.made ∧
      fs.Grows (persist number name base batch w).2.files := by
  cases added : fs.append (path base batch.kind w.today) (lines batch.records) with
  | error fault =>
    rw [persist_of_refused prepared added]
    exact ⟨rfl, .refl fs⟩
  | ok next =>
    rw [persist_of_appended prepared added]
    exact ⟨rfl, Files.grows_append added⟩

theorem grows_persist (number : Nat) (name base : String) (batch : Batch) (w : World) :
    w.files.Grows (persist number name base batch w).2.files := by
  have more := (extends_ready number base batch w).grows
  rcases prepared : ready number base batch w with ⟨fault | _, fs⟩
  · rw [prepared] at more
    rw [persist_of_unready prepared]
    exact more
  · rw [prepared] at more
    exact more.trans (persist_of_ready name prepared).2

/-- A write notes the directory of its kind exactly if it could be made, and forgets none. -/
theorem noted_persist (number : Nat) (name base : String) (batch : Batch) (w : World) (k : Kind) :
    (number, k) ∈ (persist number name base batch w).2.made ↔ (number, k) ∈ w.made ∨
      (batch.kind = k ∧ (w.files.makeDirectories (directory base k)).1 = .ok ()) := by
  by_cases again : (number, batch.kind) ∈ w.made
  · rw [(persist_of_ready name (ready_of_noted base again)).1, List.mem_cons, Prod.mk.injEq]
    constructor
    · rintro (⟨-, rfl⟩ | noted)
      · exact Or.inl again
      · exact Or.inl noted
    · rintro (noted | ⟨rfl, -⟩)
      · exact Or.inr noted
      · exact Or.inr again
  · have first := ready_of_not_noted base again
    rcases made : w.files.makeDirectories (directory base batch.kind) with ⟨fault | _, fs⟩
    · rw [persist_of_unready (first.trans made)]
      refine (or_iff_left ?_).symm
      rintro ⟨rfl, fine⟩
      rw [made] at fine
      cases fine
    · rw [(persist_of_ready name (first.trans made)).1, List.mem_cons, Prod.mk.injEq, or_comm]
      refine or_congr_right ⟨?_, ?_⟩
      · rintro ⟨-, rfl⟩
        exact ⟨rfl, congrArg Prod.fst made⟩
      · rintro ⟨rfl, -⟩
        exact ⟨rfl, rfl⟩

/-- No write takes a directory away that was noted, nor notes one that is not there. -/
theorem stranded_of_persist
    (stranded : Stranded number base k (persist number name base batch w).2) :
    Stranded number base k w := by
  obtain ⟨noted, missing⟩ := stranded
  have kept (before : (number, k) ∈ w.made) : Stranded number base k w :=
    ⟨before, fun stands => missing (stands.grows (grows_persist number name base batch w))⟩
  rcases (noted_persist number name base batch w k).1 noted with before | ⟨rfl, fine⟩
  · exact kept before
  · by_cases before : (number, batch.kind) ∈ w.made
    · exact kept before
    · have made : w.files.makeDirectories (directory base batch.kind) = (.ok (), _) :=
        Prod.ext fine rfl
      have stands := (Files.makeDirectories_spec made).2 rfl (steps_directory base batch.kind)
      have grows := (persist_of_ready name ((ready_of_not_noted base before).trans made)).2
      exact absurd (stands.grows grows) missing

/-! ### Whole histories -/

theorem persistAnew_congr (name base : String) (batch : Batch) {v : World}
    (files : w.files = v.files) (today : w.today = v.today) :
    (persistAnew name base batch w).1 = (persistAnew name base batch v).1 ∧
      (persistAnew name base batch w).2.files = (persistAnew name base batch v).2.files := by
  unfold persistAnew
  rw [files, today]
  rcases write base v.today false batch v.files with ⟨_ | _, _, _⟩
  · exact ⟨rfl, rfl⟩
  · exact ⟨rfl, rfl⟩

/-- No batch comes when the directory of its kind is missed. -/
def Firm (number : Nat) (name base : String) (w : World) (turns : List Turn) : Prop :=
  ∀ front day batch back, turns = front ++ .batch day batch :: back →
    ¬ Stranded number base batch.kind (Sink.course ⟨name, persist number name base⟩ w front).2

theorem Firm.tail {turn : Turn} {later : List Turn}
    (firm : Firm number name base w (turn :: later)) :
    Firm number name base (Sink.turn ⟨name, persist number name base⟩ w turn).2 later := by
  rintro front day batch back rfl
  exact firm (turn :: front) day batch back rfl

/-- One turn comes to the same as if the directory were made every time. -/
theorem turn_of_firm {v : World} (same : w.files = v.files) {turn : Turn} {later : List Turn}
    (firm : Firm number name base w (turn :: later)) :
    let noting := Sink.turn ⟨name, persist number name base⟩ w turn
    let plain := Sink.turn ⟨name, persistAnew name base⟩ v turn
    noting.1 = plain.1 ∧ noting.2.files = plain.2.files := by
  cases turn with
  | outside change => exact ⟨rfl, congrArg change same⟩
  | batch day batch =>
    have here : ¬ Stranded number base batch.kind { w with today := day } :=
      firm [] day batch later rfl
    obtain ⟨delivery, world⟩ := persist_of_not_stranded name here
    have files := congrArg World.files world
    have alike : { w with today := day }.files = { v with today := day }.files := same
    obtain ⟨delivery', files'⟩ := persistAnew_congr name base batch alike rfl
    exact ⟨congrArg (fun d => [d]) (delivery.trans delivery'), files.trans files'⟩

/-- A history in which no directory is missed comes to the same. -/
theorem course_of_firm {v : World} (same : w.files = v.files) {turns : List Turn}
    (firm : Firm number name base w turns) :
    let noting := Sink.course ⟨name, persist number name base⟩ w turns
    let plain := Sink.course ⟨name, persistAnew name base⟩ v turns
    noting.1 = plain.1 ∧ noting.2.files = plain.2.files := by
  induction turns generalizing w v with
  | nil => exact ⟨rfl, same⟩
  | cons turn later ih =>
    obtain ⟨deliveries, files⟩ := turn_of_firm same firm
    obtain ⟨rest, after⟩ := ih files firm.tail
    rw [Sink.course_cons, Sink.course_cons]
    exact ⟨congrArg₂ (· ++ ·) deliveries rest, after⟩

/-- **Noting the directories that were made is transparent unless one of them is missed.**  A file
sink that makes the directory of a kind only until it was there once, and one that makes it before
every write, are given the same batches of both kinds, and between them anything may happen to the
files.

* If the directory of no batch was noted before and is not there when the batch comes, then all
  deliveries are the same, and so are the files.
* Where it is so, the write fails and changes no file.  Any other write, from whatever world, has
  the delivery and leaves the world of the plain sink, but for what is noted.
* A write notes the directory of its kind exactly if it could be made.  So one that fails since it
  cannot be made does not hinder any later write.
* No write is to blame for a directory that is missed: somebody else took it away. -/
theorem noted_directories_are_transparent (number : Nat) (name base : String) :
    (∀ (w : World) (turns : List Turn), Firm number name base w turns →
      let noting := Sink.course ⟨name, persist number name base⟩ w turns
      let plain := Sink.course ⟨name, persistAnew name base⟩ w turns
      noting.1 = plain.1 ∧ noting.2.files = plain.2.files) ∧
    ∀ (w : World) (batch : Batch),
      let noting := persist number name base batch w
      let plain := persistAnew name base batch w
      (Stranded number base batch.kind w → noting.1.fault ≠ none ∧ noting.2.files = w.files) ∧
      (¬ Stranded number base batch.kind w →
        noting.1 = plain.1 ∧ { noting.2 with made := w.made } = plain.2) ∧
      ∀ k, ((number, k) ∈ noting.2.made ↔ (number, k) ∈ w.made ∨
          (batch.kind = k ∧ (w.files.makeDirectories (directory base k)).1 = .ok ())) ∧
        (Stranded number base k noting.2 → Stranded number base k w) :=
  ⟨fun _ _ firm => course_of_firm rfl firm, fun w batch =>
    ⟨persist_of_stranded name, persist_of_not_stranded name, fun k =>
      ⟨noted_persist number name base batch w k, stranded_of_persist⟩⟩⟩

theorem not_stands_runner : ¬ (outWith []).Stands (directory "out" .runner) := by
  rintro ⟨-, goal, walked, found⟩
  rw [steps_runner, start_runner] at walked
  cases walked
  cases found

/-- A directory that was noted stays while a file is put somewhere else; where it is noted and not
there, a write fails; and where it is not noted, a write makes it. -/
theorem noted_directories_are_transparent_of_notes :
    let w := someWorld (outWith []) []
    let missing := someWorld (outWith []) [(0, .runner)]
    let batch : Batch := ⟨.runner, [someRecord]⟩
    (Sink.course ⟨"days", persist 0 "days" "out"⟩ w someTurns).1 =
      (Sink.course ⟨"days", persistAnew "days" "out"⟩ w someTurns).1 ∧
    (persist 0 "days" "out" batch missing).1.fault ≠ none ∧
    (persist 0 "days" "out" batch w).1 = (persistAnew "days" "out" batch w).1 := by
  intro w missing batch
  have there : (outWith [runnerDirectory]).Stands (directory "out" .runner) :=
    (Files.makeDirectories_spec makeDirectories_runner).2 rfl (steps_directory "out" .runner)
  have kept : (Sink.course ⟨"days", persist 0 "days" "out"⟩ w (someTurns.take 2)).2.files.Stands
      (directory "out" .runner) := by
    have free : (outWith [runnerDirectory, someFile]).find? ["notes", "work"] ≠
        some .directory := by
      decide
    rw [course_someTurns]
    exact (there.grows (Files.grows_append append_someRecord)).grows (Files.grows_set free [])
  have firm : Firm 0 "days" "out" w someTurns := by
    intro front day batch back split
    rcases front with _ | ⟨one, _ | ⟨two, _ | ⟨three, rest⟩⟩⟩
    · exact fun stranded => absurd stranded.1 List.not_mem_nil
    · cases split
    · cases split
      exact fun stranded => stranded.2 kept
    · simp [someTurns] at split
  have stranded : Stranded 0 "out" .runner missing :=
    ⟨List.mem_cons_self, not_stands_runner⟩
  have fine : ¬ Stranded 0 "out" .runner w := fun stranded => absurd stranded.1 List.not_mem_nil
  obtain ⟨history, one⟩ := noted_directories_are_transparent 0 "days" "out"
  exact ⟨(history w someTurns firm).1, ((one missing batch).1 stranded).1,
    ((one w batch).2.1 fine).1⟩

/-- A batch, the directory of its kind is removed, and a batch of that kind again. -/
def removal : List Turn :=
  [.batch someDay ⟨.runner, [someRecord]⟩, .outside (·.removeTree (directory "out" .runner)),
    .batch someDay ⟨.runner, [someRecord]⟩]

/-- A sink does not make a directory again that is removed: the second write fails, and there is no
file, where a sink that makes the directory before every write would write as before. -/
theorem removed_directory_is_missed :
    let w := someWorld (outWith []) []
    let noting : Sink World := ⟨"days", persist 0 "days" "out"⟩
    let plain : Sink World := ⟨"days", persistAnew "days" "out"⟩
    Sink.dayFiles 0 "days" "out" (someWorld .fresh []) = .ok (noting, w) ∧
    (noting.course w removal).1 = [{}, { fault := some (.write "days"
      "No such file or directory (os error 2)") }] ∧
    (noting.course w removal).2.files = outWith [] ∧
    (plain.course w removal).1 = [{}, {}] ∧
    (plain.course w removal).2.files = outWith [runnerDirectory, someFile] := by
  intro w noting plain
  have set_up : Sink.dayFiles 0 "days" "out" (someWorld .fresh []) = .ok (noting, w) := by
    simp only [Sink.dayFiles, someWorld, makeDirectories_out]
    rfl
  have removed : (outWith [runnerDirectory, someFile]).removeTree (directory "out" .runner) =
      outWith [] := by
    rw [Files.removeTree, locate_runner]
    rfl
  have lost : (outWith []).append (path "out" .runner someDay) (lines [someRecord]) =
      .error .notFound := by
    rw [Files.append, locate_someDay]
    rfl
  have missed : noting.turn (someWorld (outWith []) [(0, .runner)])
      (.batch someDay ⟨.runner, [someRecord]⟩) =
        ([{ fault := some (.write "days" SystemFault.notFound.message) }],
          someWorld (outWith []) [(0, .runner), (0, .runner)]) :=
    turn_of_refused rfl lost
  have anew : plain.turn w (.batch someDay ⟨.runner, [someRecord]⟩) =
      ([{}], someWorld (outWith [runnerDirectory, someFile]) []) := by
    have written : write "out" someDay false ⟨.runner, [someRecord]⟩ (outWith []) =
        (.ok (), true, outWith [runnerDirectory, someFile]) :=
      write_of_appended makeDirectories_runner append_someRecord
    simp only [Sink.turn, plain, persistAnew, w, someWorld, written]
  have outside (sink : Sink World) (made : List (Nat × Kind)) :
      sink.turn (someWorld (outWith [runnerDirectory, someFile]) made)
        (.outside (·.removeTree (directory "out" .runner))) =
          ([], someWorld (outWith []) made) :=
    congrArg (fun files => ([], someWorld files made)) removed
  have noted : noting.course w removal = ([{}, { fault := some (.write "days"
      SystemFault.notFound.message) }], someWorld (outWith []) [(0, .runner), (0, .runner)]) := by
    rw [removal, Sink.course_cons, turn_someRecord, Sink.course_cons, outside, Sink.course_cons,
      missed]
    rfl
  have made : plain.course w removal =
      ([{}, {}], someWorld (outWith [runnerDirectory, someFile]) []) := by
    rw [removal, Sink.course_cons, anew, Sink.course_cons, outside, Sink.course_cons, anew]
    rfl
  rw [noted, made]
  exact ⟨set_up, rfl, rfl, rfl, rfl⟩

end DayFile

end TaskLedger
