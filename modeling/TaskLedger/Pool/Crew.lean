import TaskLedger.Pool.Limits
import TaskLedger.Text.Decimal

/-!
# Crews of workers

A crew is seen when everything has settled: each job that was taken on has either ended or is
*held*, and its worker waits for work, has left, or holds the job.

* `Crew.place` says where a job would run: with a worker that waits, with a new worker, or with the
  caller;
* `Crew.submitTo` takes a job on that goes to a given place, and is held or ends at once;
  `Crew.submit` finds its place first;
* `Crew.releaseAt` lets a held job end;
* `Crew.close` sends all workers home that hold no job, for good.

After each of these the crew settles (`Crew.settle`).
-/

namespace TaskLedger

/-- Where a job went: to a worker that waited, to a new one, or to the caller, with whom it ran; or
there was nothing to do. -/
inductive Submission where
  | handedOff
  | spawned
  | callerRan
  | skipped
  deriving DecidableEq, Repr

/-- The name of a submission. -/
def Submission.name : Submission → String
  | handedOff => "handed_off"
  | spawned => "spawned"
  | callerRan => "caller_ran"
  | skipped => "skipped"

/-- A crew in which everything has settled: the jobs that are held, the oldest one first; how many
workers there are; whether the crew takes on no more jobs; and how many workers were ever
started. -/
structure Crew (α : Type) where
  held : List α := []
  live : Nat := 0
  closed : Bool := false
  started : Nat := 0
  deriving DecidableEq

namespace Crew

variable {α : Type}

/-- How many workers hold a job. -/
def busy (c : Crew α) : Nat := c.held.length

/-- How many workers wait. -/
def idle (c : Crew α) : Nat := c.live - c.busy

/-- The crew after some time without change: a closed one keeps only the workers that hold a job,
and restless workers have left. -/
def settle (limits : Limits) (c : Crew α) : Crew α :=
  { c with
    live :=
      if c.closed then c.busy
      else if limits.restless then max c.busy (min c.live limits.least)
      else c.live }

/-- Where the next job runs. -/
def place (limits : Limits) (c : Crew α) : Submission :=
  if c.closed then .callerRan
  else if limits.least ≤ c.live ∧ 0 < c.idle then .handedOff
  else if c.live < limits.most then .spawned
  else .callerRan

/-- Keeps a job that stays with its worker. -/
def hold (c : Crew α) (job : Option α) : Crew α :=
  { c with held := c.held ++ job.toList }

/-- Starts a worker. -/
def start (c : Crew α) : Crew α :=
  { c with live := c.live + 1, started := c.started + 1 }

/-- Takes a job on that goes to a given place; it is given if it stays with its worker, should it
run there. -/
def submitTo (limits : Limits) (place : Submission) (c : Crew α) (job : Option α) : Crew α :=
  match place with
  | .handedOff => (c.hold job).settle limits
  | .spawned => (c.start.hold job).settle limits
  | _ => c.settle limits

/-- Takes a job on; it is given if it stays with its worker, should it run there. -/
def submit (limits : Limits) (c : Crew α) (job : Option α) : Submission × Crew α :=
  (c.place limits, c.submitTo limits (c.place limits) job)

/-- Lets a job go, given by its place among those that are held. -/
def releaseAt (limits : Limits) (c : Crew α) (index : Nat) : Option α × Crew α :=
  (c.held[index]?, { c with held := c.held.eraseIdx index }.settle limits)

/-- Takes on no more jobs. -/
def close (limits : Limits) (c : Crew α) : Crew α :=
  { c with closed := true }.settle limits

/-- Whether no job is held. -/
def isDone (c : Crew α) : Bool := c.held.isEmpty

@[simp] theorem held_settle (limits : Limits) (c : Crew α) : (c.settle limits).held = c.held := rfl

theorem isDone_iff (c : Crew α) : c.isDone = true ↔ c.busy = 0 := by
  simp [isDone, busy]

theorem place_ne_skipped (limits : Limits) (c : Crew α) : c.place limits ≠ .skipped := by
  unfold place
  repeat' split
  all_goals simp

theorem submit_fst (limits : Limits) (c : Crew α) (job : Option α) :
    (c.submit limits job).1 = c.place limits := rfl

/-- What a submission leaves behind: the job stays unless it ran with the caller, and there is one
more worker if one was started. -/
theorem submit_snd (limits : Limits) (c : Crew α) (job : Option α) :
    (c.submit limits job).2 =
      { held := if c.place limits = .callerRan then c.held else c.held ++ job.toList
        live := c.live + if c.place limits = .spawned then 1 else 0
        closed := c.closed
        started := c.started + if c.place limits = .spawned then 1 else 0 : Crew α }.settle
          limits := by
  unfold submit submitTo
  cases hp : c.place limits with
  | handedOff => rfl
  | spawned => rfl
  | callerRan => rfl
  | skipped => exact absurd hp (place_ne_skipped limits c)

end Crew

/-- On which thread a job ran: on that of the caller, on that of the only worker who could take it,
by the number of the worker, or on that of one of the workers. -/
inductive Thread where
  | caller
  | named (number : Nat)
  | worker
  deriving DecidableEq, Repr

/-- The name of a thread; the names of workers begin with a given text. -/
def Thread.name (stem : String) : Thread → String
  | caller => "caller"
  | named number => stem ++ "-" ++ Text.Decimal.text number
  | worker => "worker"

/-- The thread of the next job. -/
def Crew.nextThread {α : Type} (limits : Limits) (c : Crew α) : Thread :=
  match c.place limits with
  | .spawned => if c.idle = 0 then .named c.started else .worker
  | .handedOff => .worker
  | _ => .caller

end TaskLedger
