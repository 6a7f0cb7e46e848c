import TaskLedger.Settings.Basic
import TaskLedger.Sink.Datagram
import TaskLedger.Sink.DayFile
import TaskLedger.Sink.Note

/-!
# Routes

A route is the sink that all batches go to.  `Sink.route` builds it from the configured sinks:
without any it is a sink that writes to the journal, a single one is used as it is, and several are
put together under the name `fanout`.  The first sink that cannot be built is told.
-/

namespace TaskLedger

namespace Sink

/-- A configured sink with a number. -/
def ofSettings (number : Nat) (s : SinkSettings) (w : World) :
    Except RouteFault (Sink World × World) :=
  match s.form with
  | .journal => .ok (journal s.name, w)
  | .file =>
    (dayFiles number s.name (DayFile.base s.params) w).mapError fun fault => ⟨s.name, fault.message⟩
  | .network =>
    ((network s.name s.params w).mapError fun fault => ⟨s.name, fault.message⟩).map (·, w)

/-- Configured sinks in order, the first of them with a given number. -/
def allOfSettings (number : Nat) (settings : List SinkSettings) (w : World) :
    Except RouteFault (List (Sink World) × World) :=
  match settings with
  | [] => .ok ([], w)
  | s :: later => do
    let (sink, w) ← ofSettings number s w
    let (sinks, w) ← allOfSettings (number + 1) later w
    return (sink :: sinks, w)

/-- The sink that all batches go to. -/
def route (settings : List SinkSettings) (w : World) : Except RouteFault (Sink World × World) :=
  match settings with
  | [] => .ok (journal "log", w)
  | [single] => ofSettings 0 single w
  | several => (allOfSettings 0 several w).map fun (sinks, w) => (fanout "fanout" sinks, w)

end Sink

end TaskLedger
