/-!
# Switches

A command line is a list of words.  A switch is a word that begins with a minus sign: with two of
them comes the long name of a single switch, with one of them the letters of several.  A switch may
ask for a value, which is the rest of the word or the next word.

* `Reading.react` is what a switch does to what was read so far;
* `Reading.resolve` makes up for a value that was read but not yet looked at, which happens only
  when the next switch or the end comes;
* `Reading.words` reads words up to the end or to the name of a command.
-/

namespace TaskLedger.CommandLine

/-- Why the words of a command line are not obeyed.  A value that is missing or is none of the
possible ones is invalid; one that cannot be read fails its validation.  To ask for help or for the
version counts as a fault, and so does no word at all. -/
inductive ArgumentFault where
  | unknownArgument
  | invalidValue
  | valueValidation
  | argumentConflict
  | tooManyValues
  | invalidSubcommand
  | missingSubcommand
  | nothing
  | help
  | version
  deriving DecidableEq, Repr

/-- The name of a fault. -/
def ArgumentFault.name : ArgumentFault → String
  | unknownArgument => "UnknownArgument"
  | invalidValue => "InvalidValue"
  | valueValidation => "ValueValidation"
  | argumentConflict => "ArgumentConflict"
  | tooManyValues => "TooManyValues"
  | invalidSubcommand => "InvalidSubcommand"
  | missingSubcommand => "MissingSubcommand"
  | nothing => "DisplayHelpOnMissingArgumentOrSubcommand"
  | help => "DisplayHelp"
  | version => "DisplayVersion"

/-- How a value changes what is being read. -/
abbrev ValueReader (σ : Type) := String → Except ArgumentFault (σ → σ)

/-- What a switch does.  One without a value may be given once, or again and again; one with a value
may be given once; and one may end everything. -/
inductive Effect (σ : Type) where
  | flag (set : σ → σ)
  | count (more : σ → σ)
  | value (read : ValueReader σ)
  | stop (fault : ArgumentFault)

/-- A switch with its long name, its letter and what it does. -/
structure Switch (σ : Type) where
  long : String
  short : Option Char
  effect : Effect σ

/-- A switch whose value was not looked at yet: its long name, how its value is read, and the value,
if it came already. -/
structure Pending (σ : Type) where
  name : String
  read : ValueReader σ
  value : Option String

/-- What was read so far: what the switches made, the long names of those that were given, and the
last switch, if its value was not looked at yet. -/
structure Reading (σ : Type) where
  made : σ
  given : List String := []
  pending : Option (Pending σ) := none

namespace Reading

variable {σ : Type}

/-- Whether the next word is a value. -/
def awaits (r : Reading σ) : Bool :=
  r.pending.any (·.value.isNone)

/-- The reading in which a switch was given. -/
def give (r : Reading σ) (name : String) (change : σ → σ) : Reading σ where
  made := change r.made
  given := name :: r.given

/-- Looks at a value of a switch, which must not have been given before. -/
def take (r : Reading σ) (name : String) (read : ValueReader σ) (value : String) :
    Except ArgumentFault (Reading σ) :=
  if name ∈ r.given then .error .argumentConflict
  else (read value).map (r.give name)

/-- Looks at the value that was not looked at yet. -/
def resolve (r : Reading σ) : Except ArgumentFault (Reading σ) :=
  match r.pending with
  | none => .ok r
  | some p =>
    match p.value with
    | none => .error .invalidValue
    | some value => r.take p.name p.read value

/-- What a switch does, with the value that is the rest of its word. -/
def react (r : Reading σ) (s : Switch σ) (attached : Option String) :
    Except ArgumentFault (Reading σ) :=
  match s.effect, attached with
  | .value read, some value => do (← r.resolve).take s.long read value
  | .value read, none => do return { ← r.resolve with pending := some ⟨s.long, read, none⟩ }
  | .flag set, none => do
    let r ← r.resolve
    if s.long ∈ r.given then .error .argumentConflict else return r.give s.long set
  | .count more, none => do return (← r.resolve).give s.long more
  | .stop fault, none => do
    let _ ← r.resolve
    .error fault
  | _, some _ => .error .tooManyValues

/-- A word with the long name of a switch, and its value behind an equals sign. -/
def long (switches : List (Switch σ)) (r : Reading σ) (word : List Char) :
    Except ArgumentFault (Reading σ) :=
  let name := String.ofList (word.takeWhile (· ≠ '='))
  match switches.find? (·.long == name) with
  | none => .error .unknownArgument
  | some s =>
    match word.dropWhile (· ≠ '=') with
    | [] => r.react s none
    | _ :: value => r.react s (some (String.ofList value))

/-- The value that is the rest of a word behind a letter. -/
def attached : List Char → Option String
  | [] => none
  | '=' :: value => some (String.ofList value)
  | value => some (String.ofList value)

/-- A word with the letters of switches. -/
def letters (switches : List (Switch σ)) (r : Reading σ) :
    List Char → Except ArgumentFault (Reading σ)
  | [] => .ok r
  | c :: cs =>
    match switches.find? (·.short == some c) with
    | none => .error .unknownArgument
    | some s =>
      match s.effect with
      | .value _ => r.react s (attached cs)
      | _ => do letters switches (← r.react s none) cs

/-- The fault of a word that is neither a switch nor a value nor a command. -/
def stray (commands : List String) : ArgumentFault :=
  if commands.isEmpty then .unknownArgument else .invalidSubcommand

/-- Reads words up to the end, or up to a command, which is told with the words after it. -/
def words (switches : List (Switch σ)) (commands : List String) (r : Reading σ) :
    List String → Except ArgumentFault (Reading σ × Option (String × List String))
  | [] => .ok (r, none)
  | word :: later =>
    if !r.awaits && commands.contains word then .ok (r, some (word, later))
    else
      match word.toList with
      | ['-', '-'] =>
        match later with
        | [] => .ok (r, none)
        | next :: _ =>
          .error (if commands.contains next then .unknownArgument else stray commands)
      | '-' :: '-' :: name => do words switches commands (← r.long switches name) later
      | '-' :: c :: cs => do words switches commands (← r.letters switches (c :: cs)) later
      | _ =>
        match r.pending with
        | some ⟨name, read, none⟩ =>
          words switches commands { r with pending := some ⟨name, read, some word⟩ } later
        | _ => .error (stray commands)

end Reading

end TaskLedger.CommandLine
