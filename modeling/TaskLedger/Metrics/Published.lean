import TaskLedger.Journal
import TaskLedger.Metrics.Pipeline

/-!
# A store for the outside

Counters of categories can be published instead of being kept.  A name `category.counter` is split
at its last point; the counter is published under its name in small letters with underscores, behind
a namespace, and the category becomes a label.

Sums of durations may fall, so they are gauges.  Everything else only grows, and an amount below
zero is refused with a warning.
-/

namespace TaskLedger.Published

/-- The category and the counter of a name: what stands before and behind its last point.  A name
without a point has an empty category. -/
def splitName (name : String) : String × String :=
  let back := name.toList.reverse
  match back.dropWhile (· ≠ '.') with
  | [] => ("", name)
  | _ :: front => (String.ofList front.reverse, String.ofList (back.takeWhile (· ≠ '.')).reverse)

/-- A name with an underscore and a small letter for every capital letter of ASCII; the underscore
is left out at the beginning. -/
def snakeCase (name : String) : String :=
  String.ofList (match name.toList with
    | [] => []
    | c :: r => c.toLower :: r.flatMap fun c => if c.isUpper then ['_', c.toLower] else [c])

/-- Whether a counter is a sum of durations. -/
def isDuration (counter : String) : Bool :=
  counter.startsWith "time"

/-- The series under which a name is published. -/
def series (scope name : String) : Series :=
  ⟨scope ++ "_" ++ snakeCase (splitName name).2, [("category", (splitName name).1)]⟩

/-- The warning about an amount below zero. -/
def refusal (name : String) (delta : Int) : Event :=
  ⟨.warning, [("counter", .text name), ("delta", .number delta),
    ("message", .text "Negative counter delta skipped")]⟩

/-- Publishes an amount, or refuses it. -/
def add (scope : String) (r : Registry) (name : String) (delta : Int) : Registry × List Event :=
  if isDuration (splitName name).2 then
    (r.moveGauge (series scope name) (Signed64.toFloat delta), [])
  else if delta < 0 then (r, [refusal name delta])
  else (r.count (series scope name) delta.toNat, [])

/-- Publishes a list of amounts one after another. -/
def addAll (scope : String) (r : Registry) (entries : List (String × Int)) :
    Registry × List Event :=
  entries.foldl (fun (r, events) (name, delta) =>
    let (r, more) := add scope r name delta
    (r, events ++ more)) (r, [])

end TaskLedger.Published
