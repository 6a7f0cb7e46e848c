import TaskLedger.Files
import TaskLedger.Settings.Check
import TaskLedger.Settings.FromJson
import TaskLedger.Settings.FromToml

/-!
# Loading settings

Settings are loaded from a text in one of two formats, or from a file whose format is told by the
ending of its name in any case.  They are accepted only when no rule is broken.

`LoadFault` lists what can go wrong: the ending comes first, then the file, the text and the rules.
-/

namespace TaskLedger

/-- The formats of settings. -/
inductive SettingsFormat where
  | toml
  | json
  deriving DecidableEq, Repr

namespace SettingsFormat

/-- The format with a given ending. -/
def ofEnding? (ending : String) : Option SettingsFormat :=
  if ending.toLower = "toml" then some toml
  else if ending.toLower = "json" then some json
  else none

/-- The name of a format. -/
def title : SettingsFormat → String
  | toml => "Toml"
  | json => "Json"

end SettingsFormat

/-- Why settings could not be loaded.  The name of the file has no ending, or one of no format; the
file could not be read; the text is no document for settings in its format; or a rule is broken. -/
inductive LoadFault where
  | noEnding
  | unknownEnding (ending : String)
  | unreadable (fault : SystemFault)
  | badToml
  | badJson (fault : Json.Fault Empty)
  | invalid (violation : Violation)
  deriving DecidableEq

namespace LoadFault

/-- What is wrong with a text or the name of its file. -/
def textCause : LoadFault → String
  | noEnding => "cannot determine file format from extension"
  | unknownEnding ending => "unsupported config format: ." ++ ending
  | badToml => "TOML parse error"
  | badJson _ => "JSON parse error"
  | _ => ""

/-- The text of a fault. -/
def message : LoadFault → String
  | unreadable fault => "io error: " ++ fault.message
  | invalid violation => violation.message
  | fault => "config parse error: " ++ fault.textCause

end LoadFault

namespace Settings

/-- The settings that a text stands for, whether they are valid or not. -/
def parse : SettingsFormat → String → Except LoadFault Settings
  | .toml, s =>
    match ofToml? s with
    | some settings => .ok settings
    | none => .error .badToml
  | .json, s => (ofJson s).mapError .badJson

/-- Settings that break no rule. -/
def validated (s : Settings) : Except LoadFault Settings :=
  match s.check with
  | none => .ok s
  | some violation => .error (.invalid violation)

/-- The valid settings that a text stands for. -/
def ofText (format : SettingsFormat) (s : String) : Except LoadFault Settings := do
  validated (← parse format s)

/-- The format of a file by the ending of its name. -/
def formatOf (path : String) : Except LoadFault SettingsFormat :=
  match (Files.lastName? path).bind Files.ending? with
  | none => .error .noEnding
  | some ending =>
    match SettingsFormat.ofEnding? ending with
    | some format => .ok format
    | none => .error (.unknownEnding ending)

/-- The valid settings in a file. -/
def load (fs : Files) (path : String) : Except LoadFault Settings := do
  let format ← formatOf path
  ofText format (← (fs.readText path).mapError .unreadable)

end Settings

end TaskLedger
