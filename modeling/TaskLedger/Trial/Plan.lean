import TaskLedger.Trial.Basic
import TaskLedger.Trial.Workload

/-!
# Plans for trials

A plan says how many producers there are, how many outcomes each of them makes up in a second, and
how long they do so.  Time goes on in milliseconds.  A producer makes up an outcome of a task,
rests, and begins again; with every twentieth one comes an outcome of a scheduled job.  Both kinds
are flushed at the interval of the settings.

* `Plan.stop?` is the end of a trial: its limit, or a signal from outside that comes before it;
* `Plan.perform` makes a trial of a plan, or tells why there can be none;
* `Plan.brokenOff` tells why a trial came to no end.
-/

namespace TaskLedger

/-- How a trial goes on: how many producers there are, how many outcomes each of them makes up in a
second, and which; after how many milliseconds the trial ends by itself, if it does, or is stopped
from outside, if it is; and when it begins. -/
structure Plan where
  producers : Nat
  perSecond : Nat
  workload : Workload
  limit : Option Nat
  signal : Option Nat := none
  start : Instant := .epoch

/-- The end of a trial: after how many milliseconds it comes, and whether it comes from outside. -/
structure Stop where
  millis : Nat
  interrupted : Bool
  deriving DecidableEq, Repr

/-- Why there can be no trial: nothing is ever produced, the trial would never end, or the ledger
could not be set up. -/
inductive PlanFault where
  | idle
  | endless
  | setUp (fault : LedgerFault)
  deriving DecidableEq

namespace LedgerFault

/-- The texts of a fault and of what caused it. -/
def chain (fault : LedgerFault) : List String :=
  match fault with
  | noStore _ => [fault.message]
  | route cause => [fault.message, cause.message]

end LedgerFault

/-- The texts of a fault and of what caused it. -/
def PlanFault.chain : PlanFault → List String
  | idle => ["producers and rate must both be >= 1"]
  | endless => ["the run has neither a duration nor a shutdown signal"]
  | setUp fault => "Failed to build task log service" :: fault.chain

namespace Plan

/-- The texts about a trial that a flush broke off. -/
def brokenOff : List String := ["Flush task failed"]

/-- How many outcomes of tasks come with one of a scheduled job. -/
def cronerEvery : Nat := 20

/-- When a trial ends, and why. -/
def stop? (p : Plan) : Option Stop :=
  match p.limit, p.signal with
  | none, none => none
  | some limit, none => some ⟨limit, false⟩
  | none, some signal => some ⟨signal, true⟩
  | some limit, some signal => some (if signal < limit then ⟨signal, true⟩ else ⟨limit, false⟩)

/-- How many milliseconds a producer rests. -/
def rest (p : Plan) : Nat :=
  max 1 (1000 / p.perSecond)

/-- The number of a task: that of its producer, and how many the producer made up before. -/
def taskId (producer n : Nat) : UInt64 :=
  UInt64.ofNat (producer <<< 48 + n)

/-- What a producer makes up in a millisecond in which it does not rest. -/
def produced (p : Plan) (now : Instant) (producer n : Nat) (g : StdGen) :
    List TrialEvent × StdGen :=
  let (r, g) := p.workload.runner now (taskId producer n) g
  if (n + 1) % cronerEvery = 0 then
    let (c, g) := p.workload.croner now g
    ([.produce .runner r, .produce .croner c], g)
  else ([.produce .runner r], g)

/-- What the first `producers` producers make up in a millisecond in which they do not rest. -/
def producedByAll (p : Plan) (now : Instant) (n : Nat) : Nat → StdGen → List TrialEvent × StdGen
  | 0, g => ([], g)
  | producers + 1, g =>
    let (before, g) := producedByAll p now n producers g
    let (events, g) := p.produced now producers n g
    (before ++ events, g)

/-- What happens in a millisecond. -/
def eventsAt (p : Plan) (interval t : Nat) (g : StdGen) : List TrialEvent × StdGen :=
  let (made, g) :=
    if t % p.rest = 0 then p.producedByAll (p.start.after t) (t / p.rest) p.producers g else ([], g)
  (made ++ if 0 < t ∧ t % interval = 0 then [.flush .runner, .flush .croner] else [], g)

/-- Goes on with a trial for some milliseconds, the first of which is the given one. -/
def advance {σ : Type} (p : Plan) (interval : Nat) (trial : Trial σ) (g : StdGen) (now : Nat) :
    Nat → Trial σ × StdGen
  | 0 => (trial, g)
  | left + 1 =>
    let (events, g) := p.eventsAt interval now g
    advance p interval (trial.run events) g (now + 1) left

/-- Makes a trial of a plan with a ledger of the given settings.  Its first millisecond always
happens:  the producers begin before anything can end the trial.  The statistics are told unless a
flush unwinds. -/
def perform (p : Plan) (settings : Settings) (world : World) (g : StdGen) :
    Except PlanFault (Option RunStatistics × Ledger World) :=
  if p.producers = 0 ∨ p.perSecond = 0 then .error .idle
  else
    match Ledger.ofSettings settings (.separate ⟨.empty, .empty⟩) world, p.stop? with
    | .error fault, _ => .error (.setUp fault)
    | .ok _, none => .error .endless
    | .ok ledger, some stop =>
      let (trial, _) := p.advance settings.flushMillis.toNat { ledger } g 0 (max 1 stop.millis)
      .ok (trial.finish stop.interrupted (stop.millis * 1000000))

end Plan

end TaskLedger
