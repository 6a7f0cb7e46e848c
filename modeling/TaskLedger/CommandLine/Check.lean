import TaskLedger.CommandLine.Request
import TaskLedger.CommandLine.Response

/-!
# Checking settings

The answer to a check: that the settings of a file are valid, with what they say in short and the
warnings, or why they are not.
-/

namespace TaskLedger.CommandLine

open Text

/-- What a check found: valid settings, or why they are not. -/
inductive Finding where
  | valid (settings : Settings)
  | invalid (cause : String)

namespace Finding

/-- What a check of a file finds. -/
def ofFile (fs : Files) (path : String) : Finding :=
  if fs.isThere path then
    match Settings.load fs path with
    | .ok settings => valid settings
    | .error fault => invalid fault.message
  else invalid ("File not found: " ++ path)

/-- Whether the settings are valid. -/
def isValid : Finding → Bool
  | valid _ => true
  | invalid _ => false

/-- Settings in short. -/
def summaryTree (s : Settings) : Json.Tree :=
  .object [("version", .text Settings.version),
    ("min_workers", .natural s.crew.minWorkers.toNat),
    ("max_workers", .natural s.crew.maxWorkers.toNat),
    ("flush_interval_ms", .natural s.flushMillis.toNat),
    ("sink_count", .natural s.sinks.length),
    ("runner_categories", .natural s.runnerLevels.size),
    ("croner_categories", .natural s.cronerLevels.size)]

/-- A finding about a file as JSON; what it does not have is left out. -/
def tree (path : String) (f : Finding) : Json.Tree :=
  .object ([("valid", .boolean f.isValid), ("config_path", .text path)] ++
    match f with
    | invalid cause => [("error", .text cause)]
    | valid s =>
      (if s.warnings.isEmpty then []
        else [("warnings", .list (s.warnings.map fun w => .text w.message))])
      ++ [("summary", summaryTree s)])

/-- The lines about valid settings. -/
def validLines (s : Settings) : List String :=
  ["", "  Version: " ++ Settings.version,
    "  Workers: " ++ Decimal.text s.crew.minWorkers.toNat ++ "..="
      ++ Decimal.text s.crew.maxWorkers.toNat,
    "  Flush interval: " ++ Decimal.text s.flushMillis.toNat ++ " ms",
    "  Sinks: " ++ Decimal.text s.sinks.length,
    "  Category levels: " ++ Decimal.text s.runnerLevels.size ++ " runner, "
      ++ Decimal.text s.cronerLevels.size ++ " croner"]
  ++ if s.warnings.isEmpty then []
    else ["", "⚠ Warnings:"] ++ s.warnings.map fun w => "  - " ++ w.message

/-- The lines of a finding about a file. -/
def textLines (path : String) : Finding → List String
  | valid s => ("✓ Configuration is valid: " ++ path) :: validLines s
  | invalid cause => ["✗ Configuration is invalid: " ++ path, "", "  Error: " ++ cause]

end Finding

/-- The answer to a check. -/
def CheckRequest.answer (request : CheckRequest) (fs : Files) : Response :=
  let finding := Finding.ofFile fs request.config
  let told := if request.json then Response.ofTree (finding.tree request.config)
    else .ofLines (finding.textLines request.config)
  { told with
    failure := if finding.isValid then none else some ["Configuration validation failed"] }

end TaskLedger.CommandLine
