import TaskLedger.Binary64.Exact
import TaskLedger.Outcome.Record

/-!
# Made-up outcomes

A workload makes up outcomes that look like real ones: some class, a state that is a failure as
often as the workload says, and instants before the present one in their proper order.

* `Workload.ofWish` is the workload with a share of failures that lies between zero and one;
* `Workload.runner` and `Workload.croner` make up one outcome;
* `isOrdered`, `isExplained` and `isDueInAMinute` say what holds of every outcome that is made up.
-/

namespace TaskLedger

namespace Instant

/-- The instant some milliseconds earlier. -/
def before (t : Instant) (millis : Nat) : Instant :=
  (ofUnixNanos? (t.unixNanos - millis * 1000000)).getD t

/-- The instant some milliseconds later. -/
def after (t : Instant) (millis : Nat) : Instant :=
  (ofUnixNanos? (t.unixNanos + millis * 1000000)).getD t

end Instant

/-- How often made-up outcomes are failures: a share between zero and one. -/
structure Workload where
  rate : Float

namespace Workload

/-- The workload with the share of failures that is nearest to a wish, or without failures if the
wish is no number or has no bound. -/
def ofWish (rate : Float) : Workload :=
  ⟨if rate.isFinite then if rate < 0 then 0 else if 1 < rate then 1 else rate else 0⟩

/-- A number below `n`, and the generator after it. -/
def roll (n : Nat) (g : StdGen) : Nat × StdGen :=
  let (value, g) := stdNext g
  (value % n, g)

/-- One item of a list that has a first one. -/
def pick {α : Type} (first : α) (others : List α) (g : StdGen) : α × StdGen :=
  let (n, g) := roll (others.length + 1) g
  ((first :: others).getD n first, g)

/-- Into how many parts a share is cut. -/
def grain : Nat := 0x40000000

/-- A failure as often as the share says, otherwise a success. -/
def pickState {α : Type} (w : Workload) (success failure : α) (failures : List α) (g : StdGen) :
    α × StdGen :=
  let (n, g) := roll grain g
  if naturalShare n < w.rate then pick failure failures g else (success, g)
where
  /-- A number below `grain` as a share of it. -/
  naturalShare (n : Nat) : Float :=
    (UInt64.ofNat n).toFloat / (UInt64.ofNat grain).toFloat

/-- Why a made-up outcome is a failure. -/
def cause (isFailure : Bool) (state : String) : Option String :=
  if isFailure then some ("synthetic " ++ state) else none

/-- An execution of a task that has just ended. -/
def runner (w : Workload) (now : Instant) (id : UInt64) (g : StdGen) : Runner.Outcome × StdGen :=
  let (taskClass, g) :=
    pick "demo.SyncOrders" ["demo.SendMail", "demo.ImportFeed", "demo.RebuildIndex"] g
  let (state, g) := w.pickState Runner.State.success .programError
    [.configError, .partnerError, .dataError] g
  let (run, g) := roll 199 g
  let (consumed, g) := roll 5 g
  let (queued, g) := roll 50 g
  let (taskTag, g) := pick none [none, some "eu", some "us"] g
  let runAt := now.before (run + 1)
  let consumedAt := runAt.before consumed
  ({ taskId := some id, taskClass, taskTag, state
     queuedAt := some (consumedAt.before queued), consumedAt := some consumedAt
     runAt := some runAt, finishedAt := some now
     errorInfo := cause state.isFailure state.name }, g)

/-- A firing of a scheduled job that has just ended; the next one is due in a minute. -/
def croner (w : Workload) (now : Instant) (g : StdGen) : Croner.Outcome × StdGen :=
  let (taskClass, g) := pick "demo.NightlyReport" ["demo.PurgeSessions"] g
  let (state, g) := w.pickState Croner.State.success .programError [.partnerError, .dataError] g
  let (run, g) := roll 499 g
  let (scheduled, g) := roll 20 g
  let runAt := now.before (run + 1)
  let scheduledAt := runAt.before scheduled
  ({ taskClass, state
     scheduledAt := some scheduledAt, runAt := some runAt, finishedAt := some now
     nextAt := some (scheduledAt.after 60000)
     errorInfo := cause state.isFailure state.name }, g)

/-- Outcomes made up so far, the last ones first, and the generator after them. -/
structure Sample where
  runner : List Runner.Outcome := []
  croner : List Croner.Outcome := []
  generator : StdGen

/-- A sample with one more outcome of each kind. -/
def extend (w : Workload) (now : Instant) (s : Sample) (id : Nat) : Sample :=
  let (r, g) := w.runner now (UInt64.ofNat id) s.generator
  let (c, g) := w.croner now g
  ⟨r :: s.runner, c :: s.croner, g⟩

/-- Outcomes of both kinds, the tasks numbered from zero. -/
def sample (w : Workload) (now : Instant) (count : Nat) (g : StdGen) :
    List Runner.Outcome × List Croner.Outcome :=
  let s := (List.range count).foldl (w.extend now) { generator := g }
  (s.runner.reverse, s.croner.reverse)

end Workload

namespace Runner.Outcome

/-- Whether all instants are there and in order. -/
def isOrdered (r : Runner.Outcome) : Bool :=
  match r.queuedAt, r.consumedAt, r.runAt, r.finishedAt with
  | some queued, some consumed, some run, some finished =>
    queued.unixNanos ≤ consumed.unixNanos && consumed.unixNanos ≤ run.unixNanos
      && run.unixNanos < finished.unixNanos
  | _, _, _, _ => false

/-- Whether exactly a failure has a cause. -/
def isExplained (r : Runner.Outcome) : Bool :=
  r.errorInfo == Workload.cause r.state.isFailure r.state.name

end Runner.Outcome

namespace Croner.Outcome

/-- Whether all instants are there and in order. -/
def isOrdered (r : Croner.Outcome) : Bool :=
  match r.scheduledAt, r.runAt, r.finishedAt with
  | some scheduled, some run, some finished =>
    scheduled.unixNanos ≤ run.unixNanos && run.unixNanos < finished.unixNanos
  | _, _, _ => false

/-- Whether exactly a failure has a cause. -/
def isExplained (r : Croner.Outcome) : Bool :=
  r.errorInfo == Workload.cause r.state.isFailure r.state.name

/-- Whether the next firing is due a minute after this one. -/
def isDueInAMinute (r : Croner.Outcome) : Bool :=
  match r.scheduledAt, r.nextAt with
  | some scheduled, some next => scheduled.unixNanos + 60000000000 == next.unixNanos
  | _, _ => false

end Croner.Outcome

end TaskLedger
