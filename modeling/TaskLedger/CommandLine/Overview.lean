import TaskLedger.CommandLine.Request
import TaskLedger.CommandLine.Response
import TaskLedger.Settings.Text

/-!
# Overviews of settings

The answer to an overview: everything that the settings of a file say, as JSON or as a tree of
lines.  Levels are shown on request only.
-/

namespace TaskLedger.CommandLine

open Text

namespace Overview

/-! ### As JSON -/

/-- The members of a sink; parameters are left out if there are none. -/
def sinkTree (sink : SinkSettings) : Json.Tree :=
  .object ([("name", .text sink.name), ("sink_type", .text sink.form.title)] ++
    if sink.params.isEmpty then []
    else [("params", .object (sink.params.toList.map fun (key, value) => (key, .text value)))])

/-- Settings as JSON. -/
def tree (s : Settings) (categories : Bool) : Json.Tree :=
  .object ([("version", .text Settings.version),
    ("pool", .object [
      ("min_workers", .natural s.crew.minWorkers.toNat),
      ("max_workers", .natural s.crew.maxWorkers.toNat),
      ("idle_timeout_secs", .natural s.crew.idleSeconds.toNat),
      ("thread_name_prefix", .text s.crew.namePrefix)]),
    ("flush_interval_ms", .natural s.flushMillis.toNat),
    ("sinks", .list (s.sinks.map sinkTree))] ++
    if categories then
      [("categories", .object (Kind.all.map fun k =>
        (k.name, Settings.levelsTree (s.levels k).toList)))]
    else [])

/-! ### As lines -/

/-- The lines about the crew. -/
def crewLines (crew : CrewSettings) : List String :=
  "⚙️  Dispatch Pool" :: Text.tree [
    "Version: " ++ Settings.version,
    "Min workers: " ++ Decimal.text crew.minWorkers.toNat,
    "Max workers: " ++ Decimal.text crew.maxWorkers.toNat,
    "Idle timeout: " ++ Decimal.text crew.idleSeconds.toNat ++ "s",
    "Thread prefix: " ++ crew.namePrefix]

/-- The line of a sink and those of its parameters. -/
def sinkLines (isLast : Bool) (sink : SinkSettings) : List String :=
  ("   " ++ branch isLast ++ " " ++ sink.name ++ " (" ++ sink.form.title ++ ")") ::
    siblings (fun isLastParam (key, value) =>
      ["   " ++ (if isLast then "   " else "│  ") ++ "  " ++ branch isLastParam ++ " " ++ key
        ++ " = " ++ value]) sink.params.toList

/-- The lines about the sinks. -/
def sinksLines (sinks : List SinkSettings) : List String :=
  if sinks.isEmpty then ["", "📤 Sinks"] ++ Text.tree ["(none, tracing log)"]
  else ["", "📤 Sinks (" ++ Decimal.text sinks.length ++ ")"] ++ siblings sinkLines sinks

/-- The name of a kind in a title. -/
def kindTitle : Kind → String
  | .runner => "Runner"
  | .croner => "Croner"

/-- The lines about the levels of a kind. -/
def levelLines (s : Settings) (k : Kind) : List String :=
  ["", "🏷  " ++ kindTitle k ++ " Categories (" ++ Decimal.text (s.levels k).size ++ ")"]
    ++ Text.tree ((s.levels k).toList.map fun (key, level) => key ++ ": " ++ level.title)

/-- Settings as lines. -/
def textLines (s : Settings) (categories : Bool) : List String :=
  boxed "                 Task Log Configuration                       " ++ "" :: crewLines s.crew
    ++ ["", "⏱  Flush"] ++ Text.tree ["Interval: " ++ Decimal.text s.flushMillis.toNat ++ " ms"]
    ++ sinksLines s.sinks ++ (if categories then Kind.all.flatMap (levelLines s) else []) ++ [""]

end Overview

/-- The answer to an overview. -/
def OverviewRequest.answer (request : OverviewRequest) (fs : Files) : Response :=
  match Settings.require fs request.config with
  | .error chain => .failed chain
  | .ok s =>
    if request.json then .ofTree (Overview.tree s request.categories)
    else .ofLines (Overview.textLines s request.categories)

end TaskLedger.CommandLine
