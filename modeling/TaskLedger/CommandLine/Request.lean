import TaskLedger.Binary64.Reader
import TaskLedger.CommandLine.Switch
import TaskLedger.Text.Decimal

/-!
# Requests

What the words of a command line ask for: a command with its switches, and what every command
understands.  `Request.ofWords` reads the words.

The switches that every command understands may stand before the command or behind it; behind it
they count more.
-/

namespace TaskLedger.CommandLine

open Text

/-- The formats of the program's own log. -/
inductive LogFormat where
  | json
  | pretty
  | compact
  deriving DecidableEq, Repr

namespace LogFormat

/-- The name of a format as a value of its switch. -/
def name : LogFormat → String
  | json => "json"
  | pretty => "pretty"
  | compact => "compact"

/-- The name of a format in a listing. -/
def title : LogFormat → String
  | json => "Json"
  | pretty => "Pretty"
  | compact => "Compact"

/-- The format with a given name. -/
def ofName? (s : String) : Option LogFormat :=
  [json, pretty, compact].find? (·.name == s)

end LogFormat

/-- What every command understands, as far as it was given: how much more is told, whether only
trouble is, and the format of the log. -/
structure Common where
  verbose : Option Nat := none
  quiet : Bool := false
  format : Option LogFormat := none
  deriving DecidableEq

namespace Common

/-- What was given behind a command, and where nothing was, what was given before it. -/
def within (inner outer : Common) : Common where
  verbose := inner.verbose.or outer.verbose
  quiet := inner.quiet || outer.quiet
  format := inner.format.or outer.format

/-- The greatest count. -/
def maxVerbose : Nat := 255

/-- What is there when more is to be told. -/
def louder (c : Common) : Common :=
  { c with verbose := some (min (c.verbose.getD 0 + 1) maxVerbose) }

/-- More and less cannot be told at once. -/
def check (c : Common) : Except ArgumentFault Unit :=
  if c.quiet && c.verbose.isSome then .error .argumentConflict else .ok ()

end Common

/-- What a run is asked for: the file of the settings; how many seconds it takes, where none means
that it does not end by itself; the producers, and how many outcomes each of them makes up in a
second; the share of failures; the interval of the flushes, if it is not that of the settings;
whether the settings are only shown; and the port at which measured values are shown. -/
structure RunRequest where
  config : Option String := none
  seconds : Nat := 10
  producers : Nat := 4
  perSecond : Nat := 200
  failureRate : Float := 0.1
  flushMillis : Option Nat := none
  dryRun : Bool := false
  metricsPort : Nat := 0

/-- The file of the settings if none is given. -/
def usualFile : String := "task-log.toml"

/-- What a check is asked for: the file of the settings, and whether the answer is JSON. -/
structure CheckRequest where
  config : String := usualFile
  json : Bool := false
  deriving DecidableEq

/-- What an overview is asked for: the file of the settings, whether the answer is JSON, and whether
levels are shown. -/
structure OverviewRequest where
  config : String := usualFile
  json : Bool := false
  categories : Bool := false
  deriving DecidableEq

/-- A command: to run a ledger with made-up outcomes, to check settings, or to show them. -/
inductive Command where
  | run (request : RunRequest)
  | check (request : CheckRequest)
  | overview (request : OverviewRequest)

/-- What a command line asks for. -/
structure Request where
  common : Common
  command : Command

/-! ### Values -/

/-- A text that is not empty. -/
def path {σ : Type} (set : String → σ → σ) : ValueReader σ := fun s =>
  if s = "" then .error .invalidValue else .ok (set s)

/-- A number that some reader knows. -/
def number {σ α : Type} (read? : String → Option α) (set : α → σ → σ) : ValueReader σ := fun s =>
  match read? s with
  | some a => .ok (set a)
  | none => .error .valueValidation

/-- A number of 64 bits. -/
def word64 {σ : Type} (set : Nat → σ → σ) : ValueReader σ :=
  number (Decimal.natural? UInt64.size) set

/-- A format of the log. -/
def logFormat {σ : Type} (set : LogFormat → σ → σ) : ValueReader σ := fun s =>
  match LogFormat.ofName? s with
  | some format => .ok (set format)
  | none => .error .invalidValue

/-! ### Switches -/

/-- What is being read: what a command understands and what all of them understand. -/
abbrev Draft (α : Type) := α × Common

/-- A change of what all commands understand. -/
def both {α : Type} (change : Common → Common) (d : Draft α) : Draft α :=
  (d.1, change d.2)

/-- A change of what a command understands. -/
def own {α : Type} (change : α → α) (d : Draft α) : Draft α :=
  (change d.1, d.2)

/-- A value of a command. -/
def ownValue {α : Type} (read : ValueReader α) : ValueReader (Draft α) := fun s =>
  (read s).map own

/-- The switches that every command understands. -/
def commonSwitches (α : Type) : List (Switch (Draft α)) := [
  ⟨"verbose", some 'v', .count (both Common.louder)⟩,
  ⟨"quiet", some 'q', .flag (both fun c => { c with quiet := true })⟩,
  ⟨"log-format", none,
    .value (logFormat fun format => both fun c => { c with format := some format })⟩,
  ⟨"help", some 'h', .stop .help⟩]

/-- The switches of a run. -/
def runSwitches : List (Switch (Draft RunRequest)) := [
  ⟨"config", some 'c', .value (ownValue (path fun s r => { r with config := some s }))⟩,
  ⟨"duration", none, .value (ownValue (word64 fun n r => { r with seconds := n }))⟩,
  ⟨"producers", none, .value (ownValue (word64 fun n r => { r with producers := n }))⟩,
  ⟨"rate", none, .value (ownValue (word64 fun n r => { r with perSecond := n }))⟩,
  ⟨"failure-rate", none,
    .value (ownValue (number Binary64.ofText? fun x r => { r with failureRate := x }))⟩,
  ⟨"flush-interval-ms", none,
    .value (ownValue (word64 fun n r => { r with flushMillis := some n }))⟩,
  ⟨"dry-run", none, .flag (own fun r => { r with dryRun := true })⟩,
  ⟨"metrics-port", none,
    .value (ownValue
      (number (Decimal.signed? UInt16.size) fun n r => { r with metricsPort := n }))⟩]

/-- The switches of a check. -/
def checkSwitches : List (Switch (Draft CheckRequest)) := [
  ⟨"config", some 'c', .value (ownValue (path fun s r => { r with config := s }))⟩,
  ⟨"json", none, .flag (own fun r => { r with json := true })⟩]

/-- The switches of an overview. -/
def overviewSwitches : List (Switch (Draft OverviewRequest)) := [
  ⟨"config", some 'c', .value (ownValue (path fun s r => { r with config := s }))⟩,
  ⟨"json", none, .flag (own fun r => { r with json := true })⟩,
  ⟨"categories", none, .flag (own fun r => { r with categories := true })⟩]

/-! ### Commands -/

/-- Reads the words behind a command. -/
def readCommand {α : Type} (switches : List (Switch (Draft α))) (blank : α) (words : List String) :
    Except ArgumentFault (Draft α) := do
  let (r, _) ← Reading.words (switches ++ commonSwitches α) [] { made := (blank, {}) } words
  let r ← r.resolve
  r.made.2.check
  return r.made

/-- The names of the commands; the last one asks for help with another one. -/
def commandNames : List String := ["run", "validate", "info", "help"]

/-- Help with the commands that the words name, which have no commands of their own. -/
def helpWith : List String → ArgumentFault
  | [] => .help
  | [command] => if commandNames.contains command then .help else .invalidSubcommand
  | _ => .invalidSubcommand

/-- Reads a command by its name and the words behind it. -/
def Command.ofWords (name : String) (words : List String) :
    Except ArgumentFault (Draft Command) :=
  match name with
  | "run" => (readCommand runSwitches {} words).map fun d => (.run d.1, d.2)
  | "validate" => (readCommand checkSwitches {} words).map fun d => (.check d.1, d.2)
  | "info" => (readCommand overviewSwitches {} words).map fun d => (.overview d.1, d.2)
  | _ => .error (helpWith words)

/-- Reads the words of a command line. -/
def Request.ofWords (words : List String) : Except ArgumentFault Request := do
  let switches := commonSwitches Unit ++ [⟨"version", some 'V', .stop .version⟩]
  let (r, next) ← Reading.words switches commandNames { made := ((), {}) } words
  match next with
  | some (name, later) =>
    let (command, inner) ← Command.ofWords name later
    let r ← r.resolve
    r.made.2.check
    return ⟨inner.within r.made.2, command⟩
  | none =>
    let r ← r.resolve
    .error (if r.given.isEmpty then .nothing else .missingSubcommand)

end TaskLedger.CommandLine
