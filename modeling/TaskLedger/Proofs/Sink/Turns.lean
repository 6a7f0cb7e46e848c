import Mathlib
import TaskLedger.Proofs.Files.Places
import TaskLedger.Proofs.Instant.Text
import TaskLedger.Sink.DayFile

/-!
# A file sink turn by turn

A file sink is given batches on one day after the other, and between them anything may happen to the
files.

* `Sink.course` is what the sink does, turn by turn;
* `DayFile.place_eq`: every kind has a file of its own on every day, which stays at its place;
* `DayFile.Wrote`: what a write that succeeds does to the files.
-/

namespace TaskLedger

/-! ### Turns -/

/-- What happens to a sink and to the files it writes: it is given a batch on a day, or somebody
else changes the files. -/
inductive Turn where
  | batch (day : Date) (batch : Batch)
  | outside (change : Files → Files)

/-- What comes of a turn: the delivery if there is a batch, and the world afterwards. -/
def Sink.turn (sink : Sink World) (w : World) : Turn → List Delivery × World
  | .batch day batch =>
    let (delivery, w) := sink.persist batch { w with today := day }
    ([delivery], w)
  | .outside change => ([], { w with files := change w.files })

/-- What comes of some turns. -/
def Sink.course (sink : Sink World) (w : World) : List Turn → List Delivery × World
  | [] => ([], w)
  | turn :: later =>
    let (first, w) := sink.turn w turn
    let (rest, w) := sink.course w later
    (first ++ rest, w)

theorem Sink.course_cons (sink : Sink World) (w : World) (turn : Turn) (later : List Turn) :
    sink.course w (turn :: later) =
      ((sink.turn w turn).1 ++ (sink.course (sink.turn w turn).2 later).1,
        (sink.course (sink.turn w turn).2 later).2) := rfl

theorem Sink.course_append (sink : Sink World) (w : World) (front back : List Turn) :
    sink.course w (front ++ back) =
      ((sink.course w front).1 ++ (sink.course (sink.course w front).2 back).1,
        (sink.course (sink.course w front).2 back).2) := by
  induction front generalizing w with
  | nil => simp [course]
  | cons turn front ih => simp [course_cons, ih]

namespace DayFile

/-! ### Places -/

variable {fs next : Files} {base : String} {k : Kind} {day : Date}

theorem isName_kind (k : Kind) : Files.IsName k.name := by
  cases k <;> constructor <;> decide

/-- A date begins with a digit or a sign, and there is no slash in it. -/
theorem isName_day (day : Date) : Files.IsName (day.text ++ ".jsonl") := by
  have digit {n width : Nat} : '/' ∉ Text.Decimal.padded width n := fun among =>
    absurd (Text.Decimal.isDigit_of_mem_padded among) (by decide)
  have year : '/' ∉ Date.yearText day.year := by
    unfold Date.yearText
    split_ifs <;> simp [digit]
  have long : 6 ≤ (day.text ++ ".jsonl").toList.length := by simp
  refine ⟨?_, ?_, ?_, ?_⟩
  · simp [Date.text, Date.chars, digit, year]
  all_goals
    intro same
    rw [same] at long
    exact absurd long (by decide)

/-- The place of the file of a kind on a day. -/
def place (fs : Files) (base : String) (k : Kind) (day : Date) : Place :=
  fs.destination (path base k day)

theorem place_eq (fs : Files) (base : String) (k : Kind) (day : Date) :
    place fs base k day = (day.text ++ ".jsonl") :: k.name :: fs.destination base := by
  rw [place, path, Files.destination_join fs _ (isName_day day), directory,
    Files.destination_join fs _ (isName_kind k)]

/-- Every kind has a file of its own on every day. -/
theorem place_inj {j : Kind} {other : Date} :
    place fs base j other = place fs base k day ↔ j = k ∧ other = day := by
  constructor
  · intro same
    rw [place_eq, place_eq] at same
    obtain ⟨texts, names⟩ := List.cons.inj same
    have kinds : some j = some k := by
      rw [← Kind.ofName?_name, ← Kind.ofName?_name, (List.cons.inj names).1]
    have days : other.text = day.text := by simpa using texts
    exact ⟨Option.some.inj kinds, Instant.date_text_injective days⟩
  · rintro ⟨rfl, rfl⟩
    rfl

theorem place_congr (same : next.destination base = fs.destination base) (k : Kind) (day : Date) :
    place next base k day = place fs base k day := by
  rw [place_eq, place_eq, same]

theorem steps_directory (base : String) (k : Kind) : Files.steps (directory base k) ≠ [] := by
  rw [directory, Files.steps_join, Files.steps_of_isName (isName_kind k)]
  simp

/-! ### Writing -/

/-- What a write that succeeds does to the files: all directories are still there; the file can be
read, and holds what it held before and the records behind it; and nothing but the file is
changed. -/
structure Wrote (base : String) (day : Date) (batch : Batch) (fs next : Files) : Prop where
  grows : fs.Grows next
  read_eq : next.read (path base batch.kind day) =
    .ok ((fs.content? (place fs base batch.kind day)).getD [] ++ lines batch.records)
  content?_eq : ∀ other, next.content? other = if other = place fs base batch.kind day then
    some ((fs.content? other).getD [] ++ lines batch.records) else fs.content? other

theorem extends_prepare (base : String) (made : Bool) (k : Kind) (fs : Files) :
    fs.Extends (prepare base made k fs).2 := by
  unfold prepare
  split_ifs
  · exact .refl fs
  · exact (Files.makeDirectories_spec rfl).1

/-- Where directories were added and then records, a batch was written. -/
theorem wrote_of_append {batch : Batch} {between : Files} (more : fs.Extends between)
    (added : between.append (path base batch.kind day) (lines batch.records) = .ok next) :
    Wrote base day batch fs next := by
  have same : place between base batch.kind day = place fs base batch.kind day :=
    Files.destination_of_here more.1 _
  refine ⟨more.grows.trans (Files.grows_append added), ?_, fun other => ?_⟩
  · rw [Files.read_append added, more.content?, ← place, same]
  · rw [Files.content?_append added, more.content?, ← place, same]

theorem write_of_appended {made : Bool} {batch : Batch} {between : Files}
    (prepared : prepare base made batch.kind fs = (.ok (), between))
    (added : between.append (path base batch.kind day) (lines batch.records) = .ok next) :
    write base day made batch fs = (.ok (), true, next) := by
  simp only [write, prepared, added]

/-- The files with the directory for a batch, which is made unless the sink noted that it made
it. -/
def ready (number : Nat) (base : String) (batch : Batch) (w : World) :
    Except SystemFault Unit × Files :=
  prepare base (w.made.contains (number, batch.kind)) batch.kind w.files

section Persist

variable {number : Nat} {name : String} {batch : Batch} {w : World}

theorem extends_ready (number : Nat) (base : String) (batch : Batch) (w : World) :
    w.files.Extends (ready number base batch w).2 :=
  extends_prepare ..

theorem ready_of_noted (base : String) (noted : (number, batch.kind) ∈ w.made) :
    ready number base batch w = (.ok (), w.files) := by
  rw [ready, prepare, if_pos (by simpa using noted)]

theorem ready_of_not_noted (base : String) (first : (number, batch.kind) ∉ w.made) :
    ready number base batch w = w.files.makeDirectories (directory base batch.kind) := by
  rw [ready, prepare, if_neg (by simpa using first)]

/-- Nothing is written where the directory cannot be made.  Those above it stay that were made. -/
theorem persist_of_unready {fs : Files} {fault : SystemFault}
    (unready : ready number base batch w = (.error fault, fs)) :
    persist number name base batch w =
      ({ fault := some (.write name fault.message) }, { w with files := fs }) := by
  have first : (number, batch.kind) ∉ w.made := by
    intro noted
    rw [ready_of_noted base noted] at unready
    cases unready
  rw [ready] at unready
  simp only [persist, write, unready]
  rw [if_neg (by simpa using first)]

/-- The directory counts as made where nothing can be added to the file. -/
theorem persist_of_refused {fs : Files} {fault : SystemFault}
    (prepared : ready number base batch w = (.ok (), fs))
    (refused : fs.append (path base batch.kind w.today) (lines batch.records) = .error fault) :
    persist number name base batch w = ({ fault := some (.write name fault.message) },
      { w with files := fs, made := (number, batch.kind) :: w.made }) := by
  rw [ready] at prepared
  simp only [persist, write, prepared, refused, if_true]

theorem persist_of_appended {fs next : Files}
    (prepared : ready number base batch w = (.ok (), fs))
    (added : fs.append (path base batch.kind w.today) (lines batch.records) = .ok next) :
    persist number name base batch w =
      ({}, { w with files := next, made := (number, batch.kind) :: w.made }) := by
  simp only [persist, write_of_appended prepared added, if_true]

/-- A turn with a batch that is taken. -/
theorem turn_of_appended {fs next : Files}
    (prepared : ready number base batch w = (.ok (), fs))
    (added : fs.append (path base batch.kind day) (lines batch.records) = .ok next) :
    Sink.turn ⟨name, persist number name base⟩ w (.batch day batch) = ([{}],
      { w with files := next, today := day, made := (number, batch.kind) :: w.made }) := by
  have taken : persist number name base batch { w with today := day } = _ :=
    persist_of_appended prepared added
  simp only [Sink.turn, taken]

/-- A turn with a batch that cannot be added to its file. -/
theorem turn_of_refused {fs : Files} {fault : SystemFault}
    (prepared : ready number base batch w = (.ok (), fs))
    (refused : fs.append (path base batch.kind day) (lines batch.records) = .error fault) :
    Sink.turn ⟨name, persist number name base⟩ w (.batch day batch) =
      ([{ fault := some (.write name fault.message) }],
        { w with files := fs, today := day, made := (number, batch.kind) :: w.made }) := by
  have missed : persist number name base batch { w with today := day } = _ :=
    persist_of_refused prepared refused
  simp only [Sink.turn, missed]

/-- A batch that is taken was written. -/
theorem wrote_of_persist (fine : (persist number name base batch w).1.fault = none) :
    Wrote base w.today batch w.files (persist number name base batch w).2.files := by
  have more := extends_ready number base batch w
  rcases prepared : ready number base batch w with ⟨fault | _, fs⟩
  · rw [persist_of_unready prepared] at fine
    cases fine
  · rw [prepared] at more
    cases added : fs.append (path base batch.kind w.today) (lines batch.records) with
    | error fault =>
      rw [persist_of_refused prepared added] at fine
      cases fine
    | ok next =>
      rw [persist_of_appended prepared added]
      exact wrote_of_append more added

end Persist

end DayFile

/-- A file sink that was set up, and the world with its base directory. -/
theorem Sink.dayFiles_eq_ok {number : Nat} {name base : String} {start w : World}
    {sink : Sink World} (set_up : dayFiles number name base start = .ok (sink, w)) :
    sink = ⟨name, DayFile.persist number name base⟩ ∧ start.files.Extends w.files := by
  unfold dayFiles at set_up
  split at set_up
  · cases set_up
  · rename_i files made
    obtain ⟨rfl, rfl⟩ := Prod.mk.inj (Except.ok.inj set_up)
    exact ⟨rfl, (Files.makeDirectories_spec made).1⟩

namespace DayFile

/-! ### A small tree -/

/-- A working directory with a base directory `out` and whatever is in it. -/
def outWith (inside : List (Place × Entry)) : Files :=
  { Files.fresh with entries := Files.fresh.entries ++ (["out", "work"], .directory) :: inside }

/-- The directory for the records of tasks. -/
def runnerDirectory : Place × Entry := (["runner", "out", "work"], .directory)

/-- A day. -/
def someDay : Date := ⟨2024, 5, 1⟩

/-- Some files on that day, and the directories that the sinks made. -/
def someWorld (files : Files) (made : List (Nat × Kind)) : World where
  files := files
  today := someDay
  made := made
  barrier := fun _ => none

/-- A record of a task. -/
def someRecord : Record .runner :=
  show Runner.Outcome from { taskClass := "a", state := .success }

theorem steps_out : Files.steps "out" = ["out"] :=
  Files.steps_of_isName ⟨by decide, by decide, by decide, by decide⟩

theorem isAbsolute_out : Files.isAbsolute "out" = false := by
  rw [← Bool.not_eq_true, Files.isAbsolute_iff]
  decide

theorem destination_out (fs : Files) : fs.destination "out" = "out" :: fs.here := by
  rw [Files.destination, steps_out, Files.start, isAbsolute_out]
  rfl

theorem makeDirectories_out : Files.fresh.makeDirectories "out" = (.ok (), outWith []) := by
  rw [Files.makeDirectories, Files.steps_eq_parts]
  cbv

theorem makeDirectories_runner :
    (outWith []).makeDirectories (directory "out" .runner) =
      (.ok (), outWith [runnerDirectory]) := by
  rw [Files.makeDirectories, Files.steps_eq_parts]
  cbv

theorem checkPath_someDay : Files.checkPath (path "out" .runner someDay) = .ok () := by
  have spelled : path "out" .runner someDay = "out/runner/2024-05-01.jsonl" := by cbv
  rw [spelled, Files.checkPath_eq_ok_iff]
  decide

theorem steps_runner : Files.steps (directory "out" .runner) = ["out", "runner"] := by
  rw [directory, Files.steps_join, steps_out, Files.steps_of_isName (isName_kind .runner)]
  rfl

theorem start_runner (fs : Files) : fs.start (directory "out" .runner) = fs.here := by
  rw [directory, Files.start_join fs "out" (isName_kind .runner), Files.start, isAbsolute_out]
  rfl

/-- The way to the directory, whatever lies on it. -/
theorem locate_runner (fs : Files) :
    fs.locate (directory "out" .runner) = fs.walk fs.here ["out", "runner"] := by
  have taken := Files.checkPath_of_join checkPath_someDay
  have last := Files.walk_append fs fs.here ["out"] ["runner"]
  simp only [Files.walk_singleton] at last
  rw [directory, Files.locate_join fs (isName_kind .runner) taken, steps_out, Files.start,
    isAbsolute_out, Files.walk_singleton]
  exact last.symm

/-- The way to the file of the day, whatever lies on it. -/
theorem locate_someDay (fs : Files) : fs.locate (path "out" .runner someDay) =
    fs.walk fs.here ["out", "runner", "2024-05-01.jsonl"] := by
  have day : someDay.text ++ ".jsonl" = "2024-05-01.jsonl" := by cbv
  have last := Files.walk_append fs fs.here ["out", "runner"] ["2024-05-01.jsonl"]
  simp only [Files.walk_singleton] at last
  rw [path, Files.locate_join fs (isName_day someDay) checkPath_someDay, steps_runner,
    start_runner, day]
  exact last.symm

/-- The file of the day with a line for that record. -/
def someFile : Place × Entry :=
  (["2024-05-01.jsonl", "runner", "out", "work"], .file (lines [someRecord]))

theorem append_someRecord : (outWith [runnerDirectory]).append (path "out" .runner someDay)
    (lines [someRecord]) = .ok (outWith [runnerDirectory, someFile]) := by
  rw [Files.append, locate_someDay]
  rfl

theorem turn_someRecord : Sink.turn ⟨"days", persist 0 "days" "out"⟩ (someWorld (outWith []) [])
    (.batch someDay ⟨.runner, [someRecord]⟩) =
      ([{}], someWorld (outWith [runnerDirectory, someFile]) [(0, .runner)]) :=
  turn_of_appended makeDirectories_runner append_someRecord

/-- Those files with a file that is none of the sink's. -/
def someNotes : Files :=
  (outWith [runnerDirectory, someFile]).set ["notes", "work"] (.file [])

/-- A batch of one record, a file somewhere else, and a batch of no record on the same day. -/
def someTurns : List Turn :=
  [.batch someDay ⟨.runner, [someRecord]⟩, .outside (·.set ["notes", "work"] (.file [])),
    .batch someDay ⟨.runner, []⟩]

/-- What comes of the first two of these turns. -/
theorem course_someTurns : Sink.course ⟨"days", persist 0 "days" "out"⟩ (someWorld (outWith []) [])
    (someTurns.take 2) = ([{}], someWorld someNotes [(0, .runner)]) := by
  have outside : Sink.turn ⟨"days", persist 0 "days" "out"⟩
      (someWorld (outWith [runnerDirectory, someFile]) [(0, .runner)])
      (.outside (·.set ["notes", "work"] (.file []))) =
        ([], someWorld someNotes [(0, .runner)]) := rfl
  rw [someTurns, List.take, List.take, List.take, Sink.course_cons, turn_someRecord,
    Sink.course_cons, outside]
  rfl

end DayFile

end TaskLedger
