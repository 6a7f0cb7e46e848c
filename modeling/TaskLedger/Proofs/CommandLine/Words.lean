import Mathlib
import TaskLedger.CommandLine.Request
import TaskLedger.Proofs.Text.Decimal

/-!
# Words are understood

The words of a command line are read one after another, and the value of a switch is looked at only
when the next switch comes, or at the end.  So a part of them is described by the reading that it
leads to.

* `Plain`: a word that is no switch, and `IsPath`, one that can be the path of a file;
* `Reading.Leads`: some words lead from a reading to another one; `flag` and `value` are the words
  of one more switch, and `refused` says when these are not understood, whatever follows;
* `refused_of_unresolved`: a value that is missing is not made up for by other words;
* `Asks`: some words behind a command ask for a request, with `config` and `interval` for switches;
* `Look`: the commands that do nothing but look at a file of settings.  `Look.ofWords_words` and
  `Look.refused_words` say that their words are understood exactly if the file is named by a path.
-/

namespace TaskLedger.CommandLine

open Text

/-! ### Words -/

/-- A word that is no switch: behind a minus sign nothing follows. -/
def Plain (word : String) : Prop :=
  word.toList.head? = some '-' → word.toList = ['-']

instance (word : String) : Decidable (Plain word) :=
  inferInstanceAs (Decidable (_ → _))

theorem plain_iff {word : String} : Plain word ↔ ∀ c cs, word.toList ≠ '-' :: c :: cs := by
  constructor
  · intro plain c cs same
    have lone := plain (by rw [same]; rfl)
    rw [same] at lone
    cases lone
  · intro other begins
    obtain ⟨cs, same⟩ := List.head?_eq_some_iff.1 begins
    cases cs with
    | nil => exact same
    | cons c cs => exact absurd same (other c cs)

/-- Words that are not obeyed. -/
def Refused {α : Type} (outcome : Except ArgumentFault α) : Prop :=
  ∃ fault, outcome = .error fault

theorem Refused.bind {α β : Type} {outcome : Except ArgumentFault α} (h : Refused outcome)
    (go : α → Except ArgumentFault β) : Refused (outcome >>= go) := by
  obtain ⟨fault, rfl⟩ := h
  exact ⟨fault, rfl⟩

theorem Refused.map {α β : Type} {outcome : Except ArgumentFault α} (h : Refused outcome)
    (go : α → β) : Refused (outcome.map go) := by
  obtain ⟨fault, rfl⟩ := h
  exact ⟨fault, rfl⟩

namespace Reading

variable {σ : Type} {switches : List (Switch σ)} {r next : Reading σ} {s : Switch σ}
  {name word : String} {words later : List String} {read : ValueReader σ} {change : σ → σ}

/-- A long name that is known for a switch: it is not empty, and there is no value in it. -/
structure Known (switches : List (Switch σ)) (name : String) (s : Switch σ) : Prop where
  ne_nil : name.toList ≠ []
  whole : '=' ∉ name.toList
  found : switches.find? (·.long == name) = some s

/-- A long name does what its switch does without a value. -/
theorem words_long (known : Known switches name s) (later : List String) :
    Reading.words switches [] r (("--" ++ name) :: later) =
      (r.react s none >>= fun r => Reading.words switches [] r later) := by
  have all : ∀ c ∈ name.toList, decide (c ≠ '=') = true := by
    intro c hc
    exact decide_eq_true fun same => known.whole (same ▸ hc)
  have chars : ("--" ++ name).toList = '-' :: '-' :: name.toList := by
    rw [String.toList_append]
    rfl
  have named : r.long switches name.toList = r.react s none := by
    rw [Reading.long, List.takeWhile_eq_self_iff.2 all, List.dropWhile_eq_nil_iff.2 all,
      String.ofList_toList]
    simp only [known.found]
  obtain ⟨c, cs, eq⟩ := List.exists_cons_of_ne_nil known.ne_nil
  rw [eq] at chars named
  rw [Reading.words.eq_def]
  simp only [List.contains_nil, Bool.and_false, Bool.false_eq_true, if_false, chars, named]

/-- The word behind a switch that asks for a value is its value. -/
theorem words_awaited (awaited : r.pending = some ⟨name, read, none⟩) (plain : Plain word)
    (later : List String) : Reading.words switches [] r (word :: later) =
      Reading.words switches [] { r with pending := some ⟨name, read, some word⟩ } later := by
  -- two minus signs alone, a long name and short ones are what a plain word is not
  have other := plain_iff.1 plain
  rw [Reading.words.eq_def]
  simp only [List.contains_nil, Bool.and_false, Bool.false_eq_true, if_false]
  split
  · exact absurd ‹_› (other _ _)
  · exact absurd ‹_› (other _ _)
  · exact absurd ‹_› (other _ _)
  · simp only [awaited]

/-! ### Values that are missing -/

section Unresolved

variable {fault : ArgumentFault} (unresolved : r.resolve = .error fault)
include unresolved

theorem react_of_unresolved (s : Switch σ) (value : Option String) :
    Refused (r.react s value) := by
  rw [react.eq_def, unresolved]
  split
  all_goals exact ⟨_, rfl⟩

theorem long_of_unresolved (switches : List (Switch σ)) (cs : List Char) :
    Refused (r.long switches cs) := by
  rw [Reading.long]
  split
  · exact ⟨_, rfl⟩
  · split
    all_goals exact react_of_unresolved unresolved _ _

theorem letters_of_unresolved (switches : List (Switch σ)) (c : Char) (cs : List Char) :
    Refused (r.letters switches (c :: cs)) := by
  rw [letters]
  split
  · exact ⟨_, rfl⟩
  · split
    · exact react_of_unresolved unresolved _ _
    · exact (react_of_unresolved unresolved _ _).bind _

/-- A value that cannot be read, or is missing and not brought by the next word, is never made up
for. -/
theorem refused_of_unresolved (switches : List (Switch σ))
    (stuck : r.awaits = true → ∀ word ∈ words.head?, ¬Plain word) :
    Refused (Reading.words switches [] r words >>= fun read => read.1.resolve) := by
  cases words with
  | nil => exact ⟨fault, unresolved⟩
  | cons word later =>
    rw [Reading.words.eq_def]
    simp only [List.contains_nil, Bool.and_false, Bool.false_eq_true, if_false]
    -- every switch looks at the value before it does anything, so only a plain word could bring it
    split
    · split
      · exact ⟨fault, unresolved⟩
      · exact ⟨_, rfl⟩
    · exact ((long_of_unresolved unresolved switches _).bind _).bind _
    · exact ((letters_of_unresolved unresolved switches _ _).bind _).bind _
    · rename_i _ _ other
      split
      · rename_i awaited
        have awaits : r.awaits = true := by
          rw [Reading.awaits, awaited]
          rfl
        exact absurd (plain_iff.2 fun c cs => other c cs) (stuck awaits word rfl)
      · exact ⟨_, rfl⟩

end Unresolved

/-! ### Words in order -/

/-- Some words lead from a reading to another one; the value of the last switch belongs to it also
if it is looked at only later. -/
def Leads (switches : List (Switch σ)) (r : Reading σ) (words : List String) (next : Reading σ) :
    Prop :=
  ∃ taken, taken.resolve = .ok next ∧
    ∀ later, Reading.words switches [] r (words ++ later) = Reading.words switches [] taken later

namespace Leads

theorem nil (switches : List (Switch σ)) (made : σ) : Leads switches { made } [] { made } :=
  ⟨{ made }, rfl, fun _ => rfl⟩

theorem resolve (h : Leads switches r words next) :
    (Reading.words switches [] r words >>= fun read => read.1.resolve) = .ok next := by
  obtain ⟨taken, resolved, same⟩ := h
  have whole := same []
  rw [List.append_nil] at whole
  rw [whole]
  exact resolved

section Switch

variable {short : Option Char} (h : Leads switches r words next)
include h

/-- A flag may be given once. -/
theorem flag {set : σ → σ} (known : Known switches name ⟨name, short, .flag set⟩)
    (fresh : name ∉ next.given) :
    Leads switches r (words ++ ["--" ++ name]) (next.give name set) := by
  obtain ⟨taken, resolved, same⟩ := h
  refine ⟨next.give name set, rfl, fun later => ?_⟩
  have given : taken.react ⟨name, short, .flag set⟩ none = .ok (next.give name set) := by
    rw [react.eq_def, resolved]
    show (if name ∈ next.given then _ else _) = _
    rw [if_neg fresh]
    rfl
  rw [List.append_assoc, same]
  show Reading.words switches [] taken (("--" ++ name) :: later) = _
  rw [words_long known, given]
  rfl

variable (known : Known switches name ⟨name, short, .value read⟩)
include known

/-- Behind a switch with a value, the value is awaited. -/
theorem awaits (later : List String) :
    Reading.words switches [] r (words ++ ("--" ++ name) :: later) =
      Reading.words switches [] { next with pending := some ⟨name, read, none⟩ } later := by
  obtain ⟨taken, resolved, same⟩ := h
  rw [same, words_long known, react.eq_def, resolved]
  rfl

/-- A switch with a value may be given once. -/
theorem value (plain : Plain word) (fresh : name ∉ next.given) (reads : read word = .ok change) :
    Leads switches r (words ++ ["--" ++ name, word]) (next.give name change) := by
  refine ⟨{ next with pending := some ⟨name, read, some word⟩ }, ?_, fun later => ?_⟩
  · show take _ name read word = _
    rw [take, if_neg fresh, reads]
    rfl
  · rw [List.append_assoc]
    exact (h.awaits known (word :: later)).trans (words_awaited rfl plain later)

/-- A value is refused if it looks like a switch, or cannot be read. -/
theorem refused (bad : Plain word → Refused (read word)) (later : List String) :
    Refused (Reading.words switches [] r (words ++ ("--" ++ name) :: word :: later) >>=
      fun read => read.1.resolve) := by
  rw [h.awaits known]
  by_cases plain : Plain word
  · have unread : Refused (Reading.resolve
        { next with pending := some ⟨name, read, some word⟩ }) := by
      obtain ⟨fault, unreadable⟩ := bad plain
      show Refused (take _ name read word)
      rw [take, unreadable]
      split
      all_goals exact ⟨_, rfl⟩
    obtain ⟨fault, unresolved⟩ := unread
    rw [words_awaited rfl plain]
    exact refused_of_unresolved unresolved switches fun awaits => Bool.noConfusion awaits
  · refine refused_of_unresolved rfl switches fun _ other first => ?_
    obtain rfl := Option.some.inj first
    exact plain

end Switch

end Leads

end Reading

/-! ### Commands -/

/-- The first word names the command. -/
theorem ofWords_eq {name : String} (known : name ∈ commandNames) (words : List String) :
    Request.ofWords (name :: words) =
      (Command.ofWords name words).map fun draft => ⟨draft.2, draft.1⟩ := by
  have alone (inner : Common) : inner.within {} = inner := by
    obtain ⟨verbose, quiet, format⟩ := inner
    simp [Common.within]
  have first (switches : List (Switch (Draft Unit))) (r : Reading (Draft Unit))
      (idle : r.awaits = false) : Reading.words switches commandNames r (name :: words) =
        .ok (r, some (name, words)) := by
    rw [Reading.words.eq_def]
    simp [idle, known]
  show (Reading.words _ commandNames _ (name :: words) >>= _) = _
  rw [first _ _ rfl]
  show (Command.ofWords name words >>= fun draft =>
    Except.ok (Request.mk (draft.2.within {}) draft.1)) = _
  simp only [alone]
  rfl

/-- A word that can be the path of a file: it is no switch, and not empty. -/
structure IsPath (word : String) : Prop where
  plain : Plain word
  ne_empty : word ≠ ""

/-- Some words behind a command ask for a request, by the given switches. -/
def Asks {α : Type} (switches : List (Switch (Draft α))) (blank : α) (words : List String)
    (made : α) (given : List String) : Prop :=
  Reading.Leads (switches ++ commonSwitches α) { made := (blank, {}) } words
    { made := (made, {}), given }

namespace Asks

variable {α : Type} {switches : List (Switch (Draft α))} {blank made : α}
  {words given : List String}

theorem nil (switches : List (Switch (Draft α))) (blank : α) : Asks switches blank [] blank [] :=
  Reading.Leads.nil (switches ++ commonSwitches α) (blank, {})

theorem readCommand_eq (switches : List (Switch (Draft α))) (blank : α) (words : List String) :
    readCommand switches blank words =
      ((Reading.words (switches ++ commonSwitches α) [] { made := (blank, {}) } words >>=
        fun read => read.1.resolve) >>= fun r => r.made.2.check >>= fun _ => .ok r.made) := by
  simp only [readCommand, bind_assoc]
  rfl

/-- The request is made. -/
theorem readCommand_eq_ok (h : Asks switches blank words made given) :
    readCommand switches blank words = .ok (made, {}) := by
  rw [readCommand_eq, h.resolve]
  rfl

section Path

variable {file : String} {set : String → α → α}
  (found : (switches ++ commonSwitches α).find? (·.long == "config") =
    some ⟨"config", some 'c', .value (ownValue (path set))⟩)
  (h : Asks switches blank words made given)
include found h

/-- The path of a file is taken. -/
theorem config (good : IsPath file) (fresh : "config" ∉ given) :
    Asks switches blank (words ++ ["--config", file]) (set file made) ("config" :: given) := by
  have read : ownValue (path set) file = .ok (own (set file)) := by
    rw [ownValue, path, if_neg good.ne_empty]
    rfl
  exact h.value ⟨by decide, by decide, found⟩ good.plain fresh read

/-- Nothing else is, whatever follows. -/
theorem refused_config (bad : ¬IsPath file) (later : List String) :
    Refused (readCommand switches blank (words ++ "--config" :: file :: later)) := by
  have unread (plain : Plain file) : Refused (ownValue (path set) file) := by
    obtain rfl : file = "" := by
      by_contra some
      exact bad ⟨plain, some⟩
    exact ⟨_, rfl⟩
  rw [readCommand_eq]
  exact (h.refused ⟨by decide, by decide, found⟩ unread later).bind _

end Path

/-! ### Runs that only show settings -/

/-- A run is to show its settings only. -/
theorem dryRun : Asks runSwitches {} ["--dry-run"] { dryRun := true } ["dry-run"] := by
  have known : Reading.Known (runSwitches ++ commonSwitches RunRequest) "dry-run"
      ⟨"dry-run", none, .flag (own fun r => { r with dryRun := true })⟩ :=
    ⟨by decide, by decide, rfl⟩
  exact (nil runSwitches {}).flag known List.not_mem_nil

/-- A number of 64 bits is taken as the interval. -/
theorem interval {request : RunRequest} (h : Asks runSwitches {} words request given)
    (fresh : "flush-interval-ms" ∉ given) (n : UInt64) :
    Asks runSwitches {} (words ++ ["--flush-interval-ms", Decimal.text n.toNat])
      { request with flushMillis := some n.toNat } ("flush-interval-ms" :: given) := by
  have plain : Plain (Decimal.text n.toNat) := by
    intro begins
    obtain ⟨d, ds, written, digit⟩ := Decimal.digits_begins n.toNat
    rw [Decimal.text, String.toList_ofList, written] at begins
    obtain rfl := Option.some.inj begins
    cases digit
  have known : Reading.Known (runSwitches ++ commonSwitches RunRequest) "flush-interval-ms"
      ⟨"flush-interval-ms", none,
        .value (ownValue (word64 fun n r => { r with flushMillis := some n }))⟩ :=
    ⟨by decide, by decide, rfl⟩
  have read : ownValue (word64 fun n (r : RunRequest) => { r with flushMillis := some n })
      (Decimal.text n.toNat) = .ok (own fun r => { r with flushMillis := some n.toNat }) := by
    rw [ownValue, word64, number, Decimal.natural?_text n.toNat_lt]
    rfl
  exact h.value known plain fresh read

end Asks

/-! ### Looking at a file of settings -/

/-- A request to show the settings in a file, which may get another interval. -/
def dryRunRequest (file : String) (interval : Option UInt64) : RunRequest where
  config := some file
  dryRun := true
  flushMillis := interval.map UInt64.toNat

/-- A command that does nothing but look at a file of settings: it checks them, shows them, or shows
what a run would begin with, which may have another interval. -/
inductive Look where
  | check
  | overview
  | dryRun (interval : Option UInt64)

namespace Look

/-- What is written for a command. -/
def words (file : String) : Look → List String
  | check => ["validate", "--config", file]
  | overview => ["info", "--config", file]
  | dryRun none => ["run", "--dry-run", "--config", file]
  | dryRun (some n) =>
    ["run", "--dry-run", "--config", file, "--flush-interval-ms", Decimal.text n.toNat]

/-- What is asked for. -/
def command (file : String) : Look → Command
  | check => .check { config := file }
  | overview => .overview { config := file }
  | dryRun interval => .run (dryRunRequest file interval)

variable {file : String}

/-- The path of a file is understood. -/
theorem ofWords_words (good : IsPath file) (look : Look) :
    Request.ofWords (look.words file) = .ok ⟨{}, look.command file⟩ := by
  cases look with
  | check =>
    have asks := (Asks.nil checkSwitches {}).config rfl good List.not_mem_nil
    have made : readCommand checkSwitches {} ["--config", file] = .ok ({ config := file }, {}) :=
      asks.readCommand_eq_ok
    rw [words, ofWords_eq (by decide), Command.ofWords, made]
    rfl
  | overview =>
    have asks := (Asks.nil overviewSwitches {}).config rfl good List.not_mem_nil
    have made : readCommand overviewSwitches {} ["--config", file] =
        .ok ({ config := file }, {}) :=
      asks.readCommand_eq_ok
    rw [words, ofWords_eq (by decide), Command.ofWords, made]
    rfl
  | dryRun interval =>
    have asks := Asks.dryRun.config rfl good (by decide)
    cases interval with
    | none =>
      have made : readCommand runSwitches {} ["--dry-run", "--config", file] =
          .ok (dryRunRequest file none, {}) := asks.readCommand_eq_ok
      rw [words, ofWords_eq (by decide), Command.ofWords, made]
      rfl
    | some n =>
      have made : readCommand runSwitches {}
          ["--dry-run", "--config", file, "--flush-interval-ms", Decimal.text n.toNat] =
            .ok (dryRunRequest file (some n), {}) := (asks.interval (by decide) n).readCommand_eq_ok
      rw [words, ofWords_eq (by decide), Command.ofWords, made]
      rfl

/-- Nothing else is. -/
theorem refused_words (bad : ¬IsPath file) (look : Look) :
    Refused (Request.ofWords (look.words file)) := by
  cases look with
  | check =>
    rw [words, ofWords_eq (by decide)]
    exact (((Asks.nil checkSwitches {}).refused_config rfl bad []).map _).map _
  | overview =>
    rw [words, ofWords_eq (by decide)]
    exact (((Asks.nil overviewSwitches {}).refused_config rfl bad []).map _).map _
  | dryRun interval =>
    cases interval with
    | none =>
      rw [words, ofWords_eq (by decide)]
      exact ((Asks.dryRun.refused_config rfl bad []).map _).map _
    | some n =>
      rw [words, ofWords_eq (by decide)]
      exact ((Asks.dryRun.refused_config rfl bad _).map _).map _

end Look

end TaskLedger.CommandLine
