import TaskLedger.Settings.Basic
import TaskLedger.Text.Blank

/-!
# Warnings

Valid settings may still be different from what was meant.  `Settings.warnings` lists what is likely
to surprise: no sink, no worker that stays, file sinks without a directory, and levels that have no
effect or keep records from being shipped.
-/

namespace TaskLedger

/-- Something that is likely to surprise: there is no sink, no worker stays, a file sink has no
directory of its own, a level is set for a class that is blank, or the records of some classes are
not shipped. -/
inductive Warning where
  | noSinks
  | noneStay
  | noBase (sink : String)
  | blankClass (kind : Kind)
  | silenced (kind : Kind) (classes : List String)
  deriving DecidableEq

/-- The text of a warning. -/
def Warning.message : Warning → String
  | noSinks => "No sinks configured - batches will only be written to the tracing log"
  | noneStay => "pool.min_workers = 0 - every idle dispatch worker will be reclaimed"
  | noBase sink => "File sink '" ++ sink ++ "' has no base_path - writing under ./task-logs"
  | blankClass kind => "categories." ++ kind.name ++ " has a blank task class - it is ignored"
  | silenced kind classes =>
    "categories." ++ kind.name ++ ": records of " ++ ", ".intercalate classes
      ++ " are counted but never shipped"

/-- Whether a level is set for a class that is blank. -/
def Levels.anyBlank (levels : Levels) : Bool :=
  levels.keys.any Text.isBlankText

/-- The classes whose level ships nothing, in order. -/
def Levels.silenced (levels : Levels) : List String :=
  (levels.toList.filter fun entry => !entry.2.ships).map (·.1)

namespace Settings

/-- The warnings about the sinks. -/
def sinkWarnings (s : Settings) : List Warning :=
  (s.sinks.filter fun sink => sink.form = .file && !sink.params.contains "base_path").map
    fun sink => .noBase sink.name

/-- The warnings about the levels of a kind. -/
def levelWarnings (s : Settings) (k : Kind) : List Warning :=
  let silenced := (s.levels k).silenced
  (if (s.levels k).anyBlank then [.blankClass k] else [])
    ++ if silenced.isEmpty then [] else [.silenced k silenced]

/-- Everything that is likely to surprise. -/
def warnings (s : Settings) : List Warning :=
  (if s.sinks.isEmpty then [.noSinks] else [])
    ++ (if s.crew.minWorkers = 0 then [.noneStay] else [])
    ++ s.sinkWarnings ++ Kind.all.flatMap s.levelWarnings

end Settings

end TaskLedger
