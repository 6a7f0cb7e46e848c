import Mathlib
import TaskLedger.CommandLine.Answer
import TaskLedger.Proofs.CommandLine.Words
import TaskLedger.Proofs.Files.Places
import TaskLedger.Proofs.Settings.ReadBack
import TaskLedger.Proofs.Settings.Rules

/-!
# Files that are accepted

A check, an overview and a run that only shows its settings all look for a file, load it and say
what is wrong with it, each in its own way.  They accept the same files.

* `Settings.InFile`: the settings that a file holds are valid, said without any command;
* `Settings.load_eq_ok_iff`, `Settings.require_eq_ok_iff` and `Finding.ofFile_eq_valid_iff`: each
  way to load a file gives these settings, and fails if there are none;
* `Settings.Valid.every`: another interval leaves settings valid unless it is zero;
* `reply`: what is answered to the words of a command line;
* `Look.reply_eq` and `Look.succeeds_iff`: a command that looks at a file tells what it holds, or
  fails;
* `files_accepted_alike` puts this together.
-/

namespace TaskLedger

open Text

/-! ### The settings in a file -/

/-- A file that can be read is there. -/
theorem Files.isThere_of_readText {fs : Files} {path text : String}
    (reads : fs.readText path = .ok text) : fs.isThere path = true := by
  obtain ⟨octets, read, -⟩ := exists_of_bind_eq_ok reads
  obtain ⟨place, located, read⟩ := exists_of_bind_eq_ok read
  rw [isThere, located]
  cases found : fs.find? place with
  | none =>
    rw [found] at read
    cases read
  | some entry => simp [found]

namespace Settings

variable {fs : Files} {path : String} {s : Settings}

/-- The settings that a file holds, in the format that its name tells, are valid. -/
structure InFile (fs : Files) (path : String) (s : Settings) : Prop where
  held : ∃ format text, formatOf path = .ok format ∧ fs.readText path = .ok text ∧
    parse format text = .ok s
  valid : s.Valid

/-- Settings are loaded from a file that holds them. -/
theorem load_eq_ok_iff : load fs path = .ok s ↔ InFile fs path s := by
  simp only [load, ofText, bind_eq_ok_iff, mapError_eq_ok_iff, validated_eq_ok_iff,
    check_eq_none_iff_valid]
  constructor
  · rintro ⟨format, named, text, reads, _, parsed, rfl, valid⟩
    exact ⟨⟨format, text, named, reads, parsed⟩, valid⟩
  · rintro ⟨⟨format, text, named, reads, parsed⟩, valid⟩
    exact ⟨format, named, text, reads, s, parsed, rfl, valid⟩

/-- A file with settings is there. -/
theorem InFile.isThere (h : InFile fs path s) : fs.isThere path = true := by
  obtain ⟨_, _, -, reads, -⟩ := h.held
  exact Files.isThere_of_readText reads

/-- To look for the file first changes nothing. -/
theorem require_eq_ok_iff : require fs path = .ok s ↔ InFile fs path s := by
  rw [require]
  split
  · rw [mapError_eq_ok_iff, load_eq_ok_iff]
  · rename_i missing
    exact iff_of_false nofun fun h => missing h.isThere

/-- Another interval leaves settings valid unless it is zero. -/
theorem Valid.every (valid : s.Valid) (n : UInt64) :
    { s with flushMillis := n }.Valid ↔ 0 < n.toNat :=
  ⟨Valid.interval, fun pos => { valid with interval := pos }⟩

end Settings

namespace CommandLine

/-! ### What is answered -/

/-- What is answered to the words of a command line, and the world after it; there is no answer to
words that are not understood. -/
def reply (start : Instant) (g : StdGen) (w : World) (words : List String) :
    Option (Response × World) :=
  (Request.ofWords words).toOption.map fun request => request.command.answer start g w

/-- There is an answer, and it tells of no failure. -/
def Succeeds (answer : Option (Response × World)) : Prop :=
  ∃ told ∈ answer, told.1.failure = none

/-- A check tells that a file is valid. -/
def ReportsValid (file : String) (answer : Option (Response × World)) : Prop :=
  ∃ told ∈ answer, told.1.failure = none ∧
    ∃ more, told.1.printed = "✓ Configuration is valid: " ++ file ++ "\n" ++ more

section Look

variable {start : Instant} {g : StdGen} {w : World} {fs : Files} {file : String} {s : Settings}

/-- A check finds the settings that a file holds. -/
theorem Finding.ofFile_eq_valid_iff : Finding.ofFile fs file = .valid s ↔ s.InFile fs file := by
  rw [ofFile]
  split
  · rw [← Settings.load_eq_ok_iff]
    cases Settings.load fs file with
    | ok t => simp
    | error fault => exact iff_of_false nofun nofun
  · rename_i missing
    exact iff_of_false nofun fun held => missing held.isThere

/-- What is asked for beyond valid settings. -/
def Look.Accepts : Look → Prop
  | dryRun (some n) => 0 < n.toNat
  | _ => True

/-- A dry run shows the settings that a file holds, with the interval that was asked for. -/
theorem settings_dryRun_eq_ok_iff {interval : Option UInt64} {t : Settings} :
    (dryRunRequest file interval).settings fs = .ok t ↔
      (Look.dryRun interval).Accepts ∧ ∃ s : Settings, s.InFile fs file ∧
        { s with flushMillis := interval.getD s.flushMillis } = t := by
  rw [RunRequest.settings, bind_eq_ok_iff, ← exists_and_left]
  refine exists_congr fun s => ?_
  show Settings.require fs file = .ok s ∧ _ ↔ _
  rw [Settings.require_eq_ok_iff, and_left_comm]
  refine and_congr_right fun held => ?_
  cases interval with
  | none =>
    show Except.ok s = .ok t ↔ True ∧ s = t
    rw [Except.ok.injEq, true_and]
  | some n =>
    show Except.mapError _ (Settings.validated { s with flushMillis := UInt64.ofNat n.toNat }) =
      .ok t ↔ _
    -- all rules are checked again, but the settings in a file can break only that for the interval
    rw [mapError_eq_ok_iff, Settings.validated_eq_ok_iff, Settings.check_eq_none_iff_valid,
      UInt64.ofNat_toNat, and_comm]
    refine and_congr_left fun same => ?_
    rw [← same, held.valid.every]
    rfl

namespace Look

/-- What is told about valid settings. -/
def told (file : String) (s : Settings) : Look → Response
  | check => .ofLines ((Finding.valid s).textLines file)
  | overview => .ofLines (Overview.textLines s false)
  | dryRun interval => .ofLines (summaryLines { s with flushMillis := interval.getD s.flushMillis })

/-- A command tells what the file holds, and changes nothing. -/
theorem answer_eq {look : Look} (accepts : look.Accepts) (held : s.InFile w.files file) :
    (look.command file).answer start g w = (look.told file s, w) := by
  cases look with
  | check =>
    rw [command, Command.answer, CheckRequest.answer, Finding.ofFile_eq_valid_iff.2 held]
    rfl
  | overview =>
    rw [command, Command.answer, OverviewRequest.answer, Settings.require_eq_ok_iff.2 held]
    rfl
  | dryRun interval =>
    rw [command, Command.answer, RunRequest.answer,
      settings_dryRun_eq_ok_iff.2 ⟨accepts, s, held, rfl⟩]
    rfl

/-- A command fails unless the file holds valid settings. -/
theorem inFile_of_succeeds {look : Look}
    (success : ((look.command file).answer start g w).1.failure = none) :
    look.Accepts ∧ ∃ s : Settings, s.InFile w.files file := by
  cases look with
  | check =>
    rw [command, Command.answer, CheckRequest.answer] at success
    cases found : Finding.ofFile w.files file with
    | valid s => exact ⟨trivial, s, Finding.ofFile_eq_valid_iff.1 found⟩
    | invalid cause => simp [found, Finding.isValid] at success
  | overview =>
    rw [command, Command.answer, OverviewRequest.answer] at success
    cases required : Settings.require w.files file with
    | ok s => exact ⟨trivial, s, Settings.require_eq_ok_iff.1 required⟩
    | error chain => simp [required, Response.failed] at success
  | dryRun interval =>
    rw [command, Command.answer, RunRequest.answer] at success
    cases chosen : (dryRunRequest file interval).settings w.files with
    | ok t =>
      obtain ⟨accepts, s, held, -⟩ := settings_dryRun_eq_ok_iff.1 chosen
      exact ⟨accepts, s, held⟩
    | error chain => simp [chosen, Response.failed] at success

/-- What is answered to words that are understood. -/
theorem reply_words (good : IsPath file) (look : Look) :
    reply start g w (look.words file) = some ((look.command file).answer start g w) := by
  rw [reply, look.ofWords_words good]
  rfl

/-- Words are obeyed if they name the path of a file with valid settings. -/
theorem reply_eq {look : Look} (good : IsPath file) (accepts : look.Accepts)
    (held : s.InFile w.files file) :
    reply start g w (look.words file) = some (look.told file s, w) := by
  rw [reply_words good, answer_eq accepts held]

/-- They are not obeyed otherwise. -/
theorem succeeds_iff (look : Look) :
    Succeeds (reply start g w (look.words file)) ↔
      look.Accepts ∧ IsPath file ∧ ∃ s : Settings, s.InFile w.files file := by
  constructor
  · rintro ⟨told, answered, success⟩
    by_cases good : IsPath file
    · rw [reply_words good] at answered
      obtain rfl := Option.some.inj answered
      obtain ⟨accepts, held⟩ := inFile_of_succeeds success
      exact ⟨accepts, good, held⟩
    · obtain ⟨fault, refused⟩ := look.refused_words good
      rw [reply, refused] at answered
      cases answered
  · rintro ⟨accepts, good, s, held⟩
    refine ⟨_, reply_eq good accepts held, ?_⟩
    cases look <;> rfl

/-- A check that succeeds says that the file is valid. -/
theorem reportsValid_iff : ReportsValid file (reply start g w (check.words file)) ↔
    IsPath file ∧ ∃ s : Settings, s.InFile w.files file := by
  constructor
  · rintro ⟨told, answered, success, -⟩
    exact ((succeeds_iff check).1 ⟨told, answered, success⟩).2
  · rintro ⟨good, s, held⟩
    exact ⟨_, reply_eq good trivial held, rfl, _, String.join_cons⟩

end Look

end Look

/-- **The commands accept the same files.**  Whatever files there are, a check tells that one of
them is valid, an overview succeeds, and a run that only shows its settings succeeds, all exactly if
the file is named by a path and holds valid settings.  With another interval such a run succeeds
exactly if the interval is not zero besides, and shows the settings that the file holds with
nothing but the interval changed. -/
theorem files_accepted_alike (start : Instant) (g : StdGen) (w : World) (file : String) :
    let answer := reply start g w
    let check := answer ["validate", "--config", file]
    let overview := answer ["info", "--config", file]
    let dryRun := answer ["run", "--dry-run", "--config", file]
    let dryRunEvery (n : UInt64) := answer
      ["run", "--dry-run", "--config", file, "--flush-interval-ms", Decimal.text n.toNat]
    (ReportsValid file check ↔ IsPath file ∧ ∃ s : Settings, s.InFile w.files file) ∧
    (Succeeds overview ↔ ReportsValid file check) ∧
    (Succeeds dryRun ↔ ReportsValid file check) ∧
    ∀ n, (Succeeds (dryRunEvery n) ↔ ReportsValid file check ∧ 0 < n.toNat) ∧
      (Succeeds (dryRunEvery n) ↔ 0 < n.toNat ∧ ∃ s : Settings, s.InFile w.files file ∧
        dryRunEvery n = some (.ofLines (summaryLines { s with flushMillis := n }), w)) := by
  intro answer check overview dryRun dryRunEvery
  have valid : ReportsValid file check ↔ IsPath file ∧ ∃ s : Settings, s.InFile w.files file :=
    Look.reportsValid_iff
  have shown : Succeeds overview ↔ True ∧ IsPath file ∧ ∃ s : Settings, s.InFile w.files file :=
    Look.overview.succeeds_iff
  have dry : Succeeds dryRun ↔ True ∧ IsPath file ∧ ∃ s : Settings, s.InFile w.files file :=
    (Look.dryRun none).succeeds_iff
  have every (n : UInt64) : Succeeds (dryRunEvery n) ↔
      0 < n.toNat ∧ IsPath file ∧ ∃ s : Settings, s.InFile w.files file :=
    (Look.dryRun (some n)).succeeds_iff
  refine ⟨valid, ?_, ?_, fun n => ⟨?_, ?_⟩⟩
  · rw [valid, shown, true_and]
  · rw [valid, dry, true_and]
  · rw [valid, every, and_comm]
  · constructor
    · intro success
      obtain ⟨pos, good, s, held⟩ := (every n).1 success
      have accepts : (Look.dryRun (some n)).Accepts := pos
      exact ⟨pos, s, held, Look.reply_eq good accepts held⟩
    · rintro ⟨-, s, -, told⟩
      exact ⟨_, told, rfl⟩

/-- A file that leaves all settings open. -/
def openFile : Files where
  entries := [(["work"], .directory), (["a.json", "work"], .file "{}".toUTF8.toList)]
  here := ["work"]

/-- The usual settings are in it. -/
theorem inFile_openFile : ({} : Settings).InFile openFile "a.json" := by
  have steps : Files.steps "a.json" = ["a.json"] := by
    rw [Files.steps_eq_parts]
    decide
  have named : Settings.formatOf "a.json" = .ok .json := by
    have last : Files.lastName? "a.json" = some "a.json" := by
      rw [Files.lastName?, steps]
      decide
    have ending : Files.ending? "a.json" = some "json" := by
      rw [Files.ending?, Files.splitOn_char "a.json" '.']
      decide
    rw [Settings.formatOf, last, Option.bind_some, ending]
    decide +kernel
  have located : openFile.locate "a.json" = .ok ["a.json", "work"] := by
    have taken : Files.checkPath "a.json" = .ok () := (Files.checkPath_eq_ok_iff _).2 (by decide)
    rw [Files.locate, taken, steps]
    decide +kernel
  have reads : openFile.readText "a.json" = .ok "{}" := by
    rw [Files.readText, Files.read, located]
    decide +kernel
  exact ⟨⟨.json, "{}", named, reads, rfl⟩, (Settings.check_eq_none_iff_valid _).1 (by decide)⟩

theorem files_accepted_alike_of_openFile :
    let w : World := { files := openFile, today := ⟨1970, 1, 1⟩, barrier := fun _ => none }
    let dryRunEvery (n : UInt64) := reply .epoch (mkStdGen 0) w
      ["run", "--dry-run", "--config", "a.json", "--flush-interval-ms", Decimal.text n.toNat]
    Succeeds (dryRunEvery 1) ∧ ¬ Succeeds (dryRunEvery 0) := by
  intro w dryRunEvery
  obtain ⟨valid, -, -, every⟩ := files_accepted_alike .epoch (mkStdGen 0) w "a.json"
  have good : IsPath "a.json" := ⟨by decide, by decide⟩
  have reports := valid.2 ⟨good, {}, inFile_openFile⟩
  refine ⟨(every 1).1.2 ⟨reports, by decide⟩, fun success => ?_⟩
  exact absurd ((every 0).1.1 success).2 (by decide)

end CommandLine

end TaskLedger
