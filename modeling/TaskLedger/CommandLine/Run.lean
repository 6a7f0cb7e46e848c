import TaskLedger.CommandLine.Request
import TaskLedger.CommandLine.Response
import TaskLedger.Trial.Plan

/-!
# Runs

A run loads the settings, unless it does with the usual ones, and may change the interval of the
flushes, after which they have to be valid still.  Then it shows them in short, if nothing else is
asked for, or makes a trial and shows its statistics.
-/

namespace TaskLedger.CommandLine

open Text

/-- The lines that show settings in short. -/
def summaryLines (s : Settings) : List String :=
  ["", "=== Configuration Summary ===", "", "Dispatch pool:",
    "  Workers: " ++ Decimal.text s.crew.minWorkers.toNat ++ "..="
      ++ Decimal.text s.crew.maxWorkers.toNat ++ " (idle timeout "
      ++ Decimal.text s.crew.idleSeconds.toNat ++ "s)",
    "  Thread prefix: " ++ s.crew.namePrefix,
    "", "Flush interval: " ++ Decimal.text s.flushMillis.toNat ++ " ms", ""]
  ++ (if s.sinks.isEmpty then ["Sinks: (none, batches go to the tracing log)"]
    else ("Sinks (" ++ Decimal.text s.sinks.length ++ "):")
      :: s.sinks.map fun sink => "  - " ++ sink.name ++ " (" ++ sink.form.title ++ ")")
  ++ (if s.runnerLevels.isEmpty && s.cronerLevels.isEmpty then []
    else ["", "Category levels:",
      "  Runner: " ++ Decimal.text s.runnerLevels.size ++ " configured",
      "  Croner: " ++ Decimal.text s.cronerLevels.size ++ " configured"])
  ++ [""]

namespace RunRequest

/-- The settings in the file, or the usual ones. -/
def load (request : RunRequest) (fs : Files) : Except (List String) Settings :=
  match request.config with
  | none => .ok {}
  | some path => Settings.require fs path

/-- Settings with the interval that was asked for, if there is one. -/
def override (request : RunRequest) (s : Settings) : Except (List String) Settings :=
  match request.flushMillis with
  | none => .ok s
  | some millis =>
    (Settings.validated { s with flushMillis := UInt64.ofNat millis }).mapError fun fault =>
      "Invalid flush interval override" :: fault.chain

/-- The settings of a run. -/
def settings (request : RunRequest) (fs : Files) : Except (List String) Settings := do
  request.override (← request.load fs)

/-- The plan of a run. -/
def plan (request : RunRequest) (start : Instant) : Plan where
  producers := request.producers
  perSecond := request.perSecond
  workload := .ofWish request.failureRate
  limit := if request.seconds = 0 then none else some (request.seconds * 1000)
  start

/-- The answer to a run in a world, and the world after it.  The trial begins at the given
instant. -/
def answer (request : RunRequest) (start : Instant) (g : StdGen) (w : World) : Response × World :=
  match request.settings w.files with
  | .error chain => (.failed chain, w)
  | .ok s =>
    if request.dryRun then (.ofLines (summaryLines s), w)
    else
      match (request.plan start).perform s w g with
      | .error fault => (.failed ("Pipeline execution failed" :: fault.chain), w)
      | .ok (none, ledger) =>
        (.failed ("Pipeline execution failed" :: Plan.brokenOff), ledger.dispatcher.world)
      | .ok (some statistics, ledger) => (ofText statistics.text, ledger.dispatcher.world)
where
  /-- The answer that prints a text, or crashes without one. -/
  ofText : Option String → Response
    | some text => { printed := text }
    | none => { crashed := true }

end RunRequest

end TaskLedger.CommandLine
