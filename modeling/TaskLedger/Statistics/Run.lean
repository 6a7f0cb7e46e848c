import Std.Data.TreeMap
import TaskLedger.Ledger.Basic
import TaskLedger.Statistics.Flushes
import TaskLedger.Text.Lines

/-!
# Statistics of a run

What is known of a run when it has ended: how many records were produced and how long that took, the
flushes, what became of the batches, and the counters of both kinds under names that begin with the
kind.

* `RunStatistics.add` adds the report of a flush;
* `RunStatistics.failures` are the failures that were counted, over all categories, if their sum
  fits;
* `RunStatistics.text` is what is shown at the end.
-/

namespace TaskLedger

open Text

/-- What is known of a run: how many records of either kind were produced, and how many nanoseconds
it took; the sink that batches went to; whether it was stopped from outside, and whether no batch
was held in the end; how many flushes shipped their batch themselves; what became of the batches;
the counters of both kinds; and the flushes. -/
structure RunStatistics where
  produced : PerKind fun _ => Nat := ⟨0, 0⟩
  nanos : Nat := 0
  sink : String := ""
  interrupted : Bool := false
  drained : Bool := false
  callerRuns : Nat := 0
  totals : Totals := {}
  counters : Std.TreeMap String Int := ∅
  flushes : Flushes := {}

namespace RunStatistics

/-- The statistics with one more flush. -/
def add (s : RunStatistics) (report : FlushReport) : RunStatistics :=
  { s with
    flushes := s.flushes.add report.kind report.records report.selected
    callerRuns := s.callerRuns + if report.submission = .callerRan then 1 else 0 }

/-- How many records were produced. -/
def total (s : RunStatistics) : Nat :=
  s.produced.runner + s.produced.croner

/-- How many seconds the run took. -/
def seconds (s : RunStatistics) : Float :=
  naturalFloat (s.nanos / 1000000000) + naturalFloat (s.nanos % 1000000000) / 1e9

/-- How many records were produced in a second, zero if there was no time. -/
def throughput (s : RunStatistics) : Float :=
  if 0 < s.seconds then naturalFloat s.total / s.seconds else 0

/-- What the names of the counters of failures end with. -/
def failureEnding : String := ".numFail"

/-- The counters whose names satisfy `p`, in the order of the names. -/
def picked (s : RunStatistics) (p : List Char → Bool) : List Int :=
  (s.counters.toList.filter fun entry => p entry.1.toList).map (·.2)

/-- The failures that were counted, if their sum fits.  Otherwise whoever asks for it unwinds. -/
def failures (s : RunStatistics) : Option Int :=
  Signed64.sum? (s.picked failureEnding.toList.isSuffixOf)

/-- The lines about the flushes of a kind. -/
def flushLines (s : RunStatistics) (k : Kind) : List String :=
  let flushes := s.flushes.of k
  ["", "🔄 " ++ k.name ++ " Flushes"] ++ tree [
    "Flushes: " ++ Decimal.text flushes.flushes,
    "Records flushed: " ++ Decimal.text flushes.records,
    "Records shipped: " ++ Decimal.text flushes.shipped,
    "Batch size: " ++ flushes.sizes.text]

/-- A number of batches and the number of their records. -/
def shareText (batches records : Nat) : String :=
  Decimal.text batches ++ " batches / " ++ Decimal.text records ++ " records"

/-- The lines about the run as a whole, in which so many failures were counted. -/
def overviewLines (s : RunStatistics) (failures : Int) : List String :=
  "📊 Overview" :: tree [
    "Duration: " ++ Binary64.Fixed.text 2 s.seconds ++ "s",
    "Runner outcomes: " ++ Decimal.text s.produced.runner,
    "Croner outcomes: " ++ Decimal.text s.produced.croner,
    "Throughput: " ++ Binary64.Fixed.text 2 s.throughput ++ "/s",
    "Failures counted: " ++ Decimal.signedText failures,
    "Stopped by: " ++ if s.interrupted then "signal" else "duration"]

/-- The lines about the batches. -/
def dispatchLines (s : RunStatistics) : List String :=
  ["", "📤 Dispatch (" ++ s.sink ++ ")"] ++ tree [
    "Batches submitted: " ++ Decimal.text s.totals.submitted,
    "Caller-runs: " ++ Decimal.text s.callerRuns,
    "Persisted: " ++ shareText s.totals.persistedBatches s.totals.persistedRecords,
    "Failed: " ++ shareText s.totals.failedBatches s.totals.failedRecords,
    "Drained: " ++ if s.drained then "yes" else "no"]

/-- The lines about the counters. -/
def counterLines (s : RunStatistics) : List String :=
  if s.counters.isEmpty then []
  else ["", "📈 Category Counters"] ++ tree (s.counters.toList.map fun (name, value) =>
    name ++ ": " ++ Decimal.signedText value)

/-- The statistics as they are shown at the end of a run, unless that unwinds. -/
def text (s : RunStatistics) : Option String :=
  s.failures.map fun failures =>
    lines ("" :: boxed "                    Pipeline Statistics                       " ++ ""
      :: s.overviewLines failures ++ Kind.all.flatMap s.flushLines ++ s.dispatchLines
      ++ s.counterLines ++ [""])

end RunStatistics

end TaskLedger
