import Mathlib
import TaskLedger.Proofs.Ledger.Traffic
import TaskLedger.Proofs.Outcome.Line
import TaskLedger.Proofs.Sink.Turns

/-!
# A file sink appends what it is given

The files of a sink grow by the lines of the batches it is given, in order and by nothing else, as
long as every write succeeds and nobody else changes what is below its base directory.

* `DayFile.given`: the batches of a kind on a day;
* `DayFile.records?_lines`: lines are split back into the records they were written for;
* `DayFile.content?_course`: what a file holds after some turns;
* `given_batches_are_appended` puts this together.
-/

namespace TaskLedger

namespace DayFile

variable {k : Kind} {day : Date} {base : String}

/-! ### What is given -/

/-- The records of a batch that is given on a day, if it is of the given kind. -/
def given? (k : Kind) (day : Date) : Turn → Option (List (Record k))
  | .batch other batch =>
    if other = day then k.only? (α := fun k => List (Record k)) batch.records else none
  | .outside _ => none

/-- The batches of a kind that are given on a day, in order. -/
def given (k : Kind) (day : Date) (turns : List Turn) : List (List (Record k)) :=
  turns.filterMap (given? k day)

/-- What a file holds when batches were appended: there is none before the first of them. -/
def grown (before : Option (List UInt8)) (batches : List (List (Record k))) :
    Option (List UInt8) :=
  if batches = [] then before else some (before.getD [] ++ lines batches.flatten)

theorem lines_append (front back : List (Record k)) :
    lines (front ++ back) = lines front ++ lines back :=
  List.flatMap_append

theorem getD_grown (before : Option (List UInt8)) (batches : List (List (Record k))) :
    (grown before batches).getD [] = before.getD [] ++ lines batches.flatten := by
  rw [grown]
  split_ifs with none_yet
  · simp [none_yet, lines]
  · rfl

theorem grown_append_singleton (before : Option (List UInt8)) (batches : List (List (Record k)))
    (batch : List (Record k)) :
    grown before (batches ++ [batch]) = some ((grown before batches).getD [] ++ lines batch) := by
  rw [grown, if_neg (by simp), getD_grown, List.flatten_append, lines_append,
    List.flatten_singleton, List.append_assoc]

theorem given_append_singleton (k : Kind) (day : Date) (turns : List Turn) (turn : Turn) :
    given k day (turns ++ [turn]) = given k day turns ++ (given? k day turn).toList := by
  rw [given, List.filterMap_append]
  cases h : given? k day turn <;> simp [given, h]

theorem given?_self (batch : Batch) (day : Date) :
    given? batch.kind day (.batch day batch) = some batch.records := by
  rw [given?, if_pos rfl, Kind.only?_self]

theorem given?_of_ne {batch : Batch} {other : Date} (h : ¬ (batch.kind = k ∧ other = day)) :
    given? k day (.batch other batch) = none := by
  rw [given?]
  split_ifs with same
  · exact Kind.only?_of_ne (fun kinds => h ⟨kinds, same⟩) _
  · rfl

/-! ### Lines are read back -/

/-- The record on a line. -/
def record? (k : Kind) (line : List UInt8) : Option (Record k) :=
  (String.fromUTF8? ⟨line.toArray⟩).bind fun s => (Record.ofText k s).toOption

/-- The records on some lines, if every line is a record and the last one is ended like the
others. -/
def records? (k : Kind) (text : List UInt8) : Option (List (Record k)) :=
  let parts := text.splitOn 10
  if parts.getLast? = some [] then parts.dropLast.mapM (record? k) else none

theorem record?_line (r : Record k) : record? k (Packed.octets r.line) = some r := by
  have octets : ByteArray.mk (Packed.octets r.line).toArray = r.line.toByteArray := by
    rw [Packed.octets_eq_data]
  have text : String.fromUTF8? r.line.toByteArray = some r.line := dif_pos r.line.isValidUTF8
  rw [record?, octets, text, Option.bind_some, (Record.ofText_line k r).1]
  rfl

/-- No line holds the character that ends it. -/
theorem splitOn_lines (records : List (Record k)) : (lines records).splitOn 10 =
    records.map (fun r => Packed.octets r.line) ++ [[]] := by
  rw [List.splitOn_eq_splitOnP]
  induction records with
  | nil => rfl
  | cons r records ih =>
    have line : (Packed.octets r.line).splitOnP (· == 10) = [Packed.octets r.line] := by
      refine List.splitOnP_eq_singleton fun b among => ?_
      rw [beq_eq_false_iff_ne]
      rintro rfl
      exact (Record.ofText_line k r).2 among
    have spelled : lines (r :: records) = Packed.octets r.line ++ 10 :: lines records := by
      simp [lines]
    rw [spelled, List.splitOnP_append_cons _ _ (by rfl), line, ih]
    rfl

/-- Lines are split back into the records they were written for. -/
theorem records?_lines (records : List (Record k)) :
    records? k (lines records) = some records := by
  have each : record? k ∘ (fun r : Record k => Packed.octets r.line) = fun r => pure r :=
    funext record?_line
  simp only [records?, splitOn_lines, List.getLast?_append, List.getLast?_singleton,
    Option.some_or, if_true, List.dropLast_concat, List.mapM_map, each]
  exact (List.mapM_pure (f := id)).trans (congrArg some (List.map_id records))

/-! ### The files of a course -/

/-- A change that leaves alone what the files below a base directory hold. -/
def Spares (base : String) (fs next : Files) : Prop :=
  next.destination base = fs.destination base ∧
    ∀ place, Files.isBelow place (fs.destination base) = true →
      next.content? place = fs.content? place

/-- Nobody else changes what is below the base directory. -/
def Calm (sink : Sink World) (base : String) (w : World) (turns : List Turn) : Prop :=
  ∀ front change back, turns = front ++ .outside change :: back →
    Spares base (sink.course w front).2.files (change (sink.course w front).2.files)

theorem Calm.front {sink : Sink World} {w : World} {front back : List Turn}
    (calm : Calm sink base w (front ++ back)) : Calm sink base w front := by
  rintro before change after rfl
  exact calm before change (after ++ back) (by simp)

/-- A write lets the file of its kind and its day grow, and no other one. -/
theorem Wrote.grown {fs next : Files} {today : Date} {batch : Batch}
    (wrote : Wrote base today batch fs next) (k : Kind) (day : Date)
    {before : Option (List UInt8)} {batches : List (List (Record k))}
    (holds : fs.content? (place fs base k day) = DayFile.grown before batches) :
    next.content? (place fs base k day) =
      DayFile.grown before (batches ++ (given? k day (.batch today batch)).toList) := by
  rw [wrote.content?_eq]
  by_cases mine : batch.kind = k ∧ today = day
  · obtain ⟨rfl, rfl⟩ := mine
    rw [if_pos rfl, given?_self, Option.toList_some, grown_append_singleton, holds]
  · rw [if_neg fun there => mine (by simpa [eq_comm] using place_inj.1 there),
      given?_of_ne mine, Option.toList_none, List.append_nil, holds]

section Course

variable {number : Nat} {name : String} {w : World}

/-- Every day file holds what it held at first and then the batches of its kind on its day. -/
theorem content?_course {turns : List Turn}
    (calm : Calm ⟨name, persist number name base⟩ base w turns)
    (fine : ∀ d ∈ (Sink.course ⟨name, persist number name base⟩ w turns).1, d.fault = none) :
    let after := (Sink.course ⟨name, persist number name base⟩ w turns).2.files
    after.destination base = w.files.destination base ∧ ∀ k day,
      after.content? (place w.files base k day) =
        grown (w.files.content? (place w.files base k day)) (given k day turns) := by
  induction turns using List.reverseRecOn with
  | nil => exact ⟨rfl, fun k day => rfl⟩
  | append_singleton turns turn ih =>
    rw [Sink.course_append] at fine ⊢
    obtain ⟨same, holds⟩ := ih calm.front fun d among => fine d (List.mem_append_left _ among)
    generalize reached : Sink.course ⟨name, persist number name base⟩ w turns = now at *
    cases turn with
    | outside change =>
      obtain ⟨still, spared⟩ := calm turns change [] rfl
      rw [reached] at still spared
      refine ⟨still.trans same, fun k day => ?_⟩
      have below : Files.isBelow (place w.files base k day) (now.2.files.destination base) := by
        rw [same, place_eq, Files.isBelow, List.isSuffixOf_iff_suffix]
        exact ⟨[_, _], rfl⟩
      rw [given_append_singleton, given?, Option.toList_none, List.append_nil, ← holds k day]
      exact spared _ below
    | batch today batch =>
      have wrote := wrote_of_persist (fine _ (List.mem_append_right _ (List.mem_singleton_self _)))
      refine ⟨(Files.destination_of_here wrote.grows.1 base).trans same, fun k day => ?_⟩
      rw [given_append_singleton, ← place_congr same k day]
      refine wrote.grown k day ?_
      rw [place_congr same k day]
      exact holds k day

end Course

/-- **A file sink appends exactly what it is given.**  From where it is set up the sink is given
batches of both kinds on any days, and between them anything may happen to the files, as long as
what is below the base directory is left alone and no delivery has a fault.  Then every day file
holds what it held at first and then a line for every record of the batches of its kind on its day,
in order; without such a batch it is as it was.  This is what the path leads to after every write,
which changes no other file, and none of the other kind.  Lines are split back at their ends into
the records they were written for. -/
theorem given_batches_are_appended (number : Nat) (name base : String) {start w : World}
    {sink : Sink World} (set_up : Sink.dayFiles number name base start = .ok (sink, w))
    (turns : List Turn) (calm : Calm sink base w turns)
    (fine : ∀ d ∈ (sink.course w turns).1, d.fault = none) :
    (∀ k day, (sink.course w turns).2.files.content? (place start.files base k day) =
      grown (start.files.content? (place start.files base k day)) (given k day turns)) ∧
    (∀ front day batch back, turns = front ++ .batch day batch :: back →
      let before := (sink.course w front).2.files
      let after := (sink.course w (front ++ [.batch day batch])).2.files
      let own := place start.files base batch.kind day
      after.read (path base batch.kind day) = .ok ((start.files.content? own).getD [] ++
        lines (given batch.kind day (front ++ [.batch day batch])).flatten) ∧
      (∀ other, other ≠ own → after.content? other = before.content? other) ∧
      ∀ j other, j ≠ batch.kind → after.content? (place start.files base j other) =
        before.content? (place start.files base j other)) ∧
    ∀ (k : Kind) (records : List (Record k)), records? k (lines records) = some records := by
  obtain ⟨rfl, more⟩ := Sink.dayFiles_eq_ok set_up
  have stays : w.files.destination base = start.files.destination base :=
    Files.destination_of_here more.1 base
  have places (k : Kind) (day : Date) : place start.files base k day = place w.files base k day :=
    (place_congr stays k day).symm
  simp only [← more.content?, places]
  refine ⟨(content?_course calm fine).2, ?_, fun k records => records?_lines records⟩
  rintro front day batch back rfl
  rw [Sink.course_append] at fine
  obtain ⟨same, holds⟩ :=
    content?_course calm.front fun d among => fine d (List.mem_append_left _ among)
  have wrote : Wrote base day batch (Sink.course ⟨name, persist number name base⟩ w front).2.files
      (Sink.course ⟨name, persist number name base⟩ w (front ++ [.batch day batch])).2.files := by
    rw [Sink.course_append]
    exact wrote_of_persist (fine _ (List.mem_append_right _ List.mem_cons_self))
  have here := place_congr same batch.kind day
  generalize (Sink.course ⟨name, persist number name base⟩ w front).2.files = before at *
  generalize (Sink.course _ w (front ++ [.batch day batch])).2.files = after at *
  have elsewhere {other : Place} (ne : other ≠ place w.files base batch.kind day) :
      after.content? other = before.content? other := by
    rw [wrote.content?_eq, here, if_neg ne]
  refine ⟨?_, fun other => elsewhere, fun j other ne => elsewhere fun there => ?_⟩
  · rw [wrote.read_eq, here, holds batch.kind day, getD_grown, given_append_singleton, given?_self,
      Option.toList_some, List.flatten_append, List.flatten_singleton, lines_append,
      List.append_assoc]
  · exact ne (place_inj.1 there).1

/-- After these turns the file is the line of the one record. -/
theorem given_batches_are_appended_of_note :
    let sink : Sink World := ⟨"days", persist 0 "days" "out"⟩
    Sink.dayFiles 0 "days" "out" (someWorld .fresh []) = .ok (sink, someWorld (outWith []) []) ∧
    (sink.course (someWorld (outWith []) []) someTurns).2.files.read (path "out" .runner someDay) =
      .ok (lines [someRecord]) := by
  intro sink
  have set_up : Sink.dayFiles 0 "days" "out" (someWorld .fresh []) =
      .ok (sink, someWorld (outWith []) []) := by
    simp only [Sink.dayFiles, someWorld, makeDirectories_out]
    rfl
  have fine : ∀ d ∈ (sink.course (someWorld (outWith []) []) someTurns).1, d.fault = none := by
    obtain ⟨next, added⟩ : ∃ next, someNotes.append (path "out" .runner someDay)
        (lines (k := .runner) []) = .ok next := by
      rw [Files.append, locate_someDay]
      exact ⟨_, rfl⟩
    have last : sink.turn (someWorld someNotes [(0, .runner)]) (.batch someDay ⟨.runner, []⟩) =
        ([{}], someWorld next [(0, .runner), (0, .runner)]) :=
      turn_of_appended rfl added
    have split : someTurns = someTurns.take 2 ++ [.batch someDay ⟨.runner, []⟩] := rfl
    rw [split, Sink.course_append, course_someTurns, Sink.course_cons, last]
    simp [Sink.course]
  have calm : Calm sink "out" (someWorld (outWith []) []) someTurns := by
    have spares : Spares "out" (outWith [runnerDirectory, someFile]) someNotes := by
      refine ⟨Files.destination_of_here rfl _, fun place below => ?_⟩
      rw [destination_out] at below
      rw [someNotes, Files.content?_set (by decide), if_neg]
      rintro rfl
      exact absurd below (by decide)
    intro front change back split
    rcases front with _ | ⟨one, _ | ⟨two, _ | ⟨three, rest⟩⟩⟩
    · cases split
    · cases split
      rw [Sink.course_cons, turn_someRecord]
      exact spares
    · cases split
    · simp [someTurns] at split
  have appended := given_batches_are_appended 0 "days" "out" set_up someTurns calm fine
  obtain ⟨read, -, -⟩ := appended.2.1 (someTurns.take 2) someDay ⟨.runner, []⟩ [] rfl
  refine ⟨set_up, read.trans ?_⟩
  rw [place_eq, destination_out]
  rfl

end DayFile

end TaskLedger
