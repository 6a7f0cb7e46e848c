import TaskLedger.Pool.Crew

/-!
# Crews at the grain of their lock

A `Floor` is a crew between any two moments at which somebody has its lock.  It has the three
counters that the crew keeps, the jobs that nobody has picked up yet, the places where the workers
are, and the notifications that are under way.

* A worker *starts*, then has the lock for the first time;
* it is *parked* while it waits for a notification, and *roused* when it waits no more but does not
  have the lock yet, whether it was notified, lost its patience, or was roused for no reason;
* it *runs* a job without the lock.

`Floor.turn` is what a worker without a job does when it has the lock: it picks up the next job,
goes home, or parks.  `Floor.step` makes one step of anybody, in any order that the `Move`s allow,
and `Floor.Reachable` holds of every floor that steps lead to.

`Crew.floor` is a settled crew at this grain, and `Crew.placeBehind` says where the second one of
two jobs runs that come so fast that nobody moves in between.
-/

namespace TaskLedger

/-- A crew between two moments at which somebody has its lock.

* `live`, `idle` and `busy` are the counters of workers, of workers without a job, and of jobs that
  have not ended;
* `queue` has the jobs that nobody has picked up yet, the oldest one first, and `running` those that
  workers run;
* `starting` workers have not had the lock yet, `parked` ones wait for a notification, and `roused`
  ones wait no more, and for the lock only;
* `calls` and `alarms` are the notifications under way, for one worker and for all of them. -/
structure Floor (α : Type) where
  live : Nat := 0
  idle : Nat := 0
  busy : Nat := 0
  queue : List α := []
  closed : Bool := false
  starting : Nat := 0
  parked : Nat := 0
  roused : Nat := 0
  running : List α := []
  calls : Nat := 0
  alarms : Nat := 0
  deriving DecidableEq

/-- A step of somebody.  Somebody submits a job; a notification for one worker arrives, or one for
all; a worker waits no more, by itself; a worker has the lock for the first time; one that waited
has the lock again, and is told whether it has lost its patience; a job ends, given by its place
among those that run, and its worker has the lock again; or somebody closes the crew. -/
inductive Move (α : Type) where
  | submit (job : α)
  | call
  | alarm
  | rouse
  | begin (late : Bool)
  | resume (late : Bool)
  | finish (index : Nat) (late : Bool)
  | close
  deriving DecidableEq, Repr

namespace Floor

variable {α : Type}

/-- Where the next job runs. -/
def place (limits : Limits) (s : Floor α) : Submission :=
  if s.closed then .callerRan
  else if limits.least ≤ s.live ∧ s.queue.length < s.idle then .handedOff
  else if s.live < limits.most then .spawned
  else .callerRan

/-- Takes a job on. -/
def submit (limits : Limits) (s : Floor α) (job : α) : Floor α :=
  match s.place limits with
  | .handedOff => { s with busy := s.busy + 1, queue := s.queue ++ [job], calls := s.calls + 1 }
  | .spawned =>
    { s with
      live := s.live + 1
      busy := s.busy + 1
      queue := s.queue ++ [job]
      starting := s.starting + 1 }
  | _ => s

/-- A worker who starts has the lock. -/
def enter (s : Floor α) : Floor α :=
  { s with starting := s.starting - 1, idle := s.idle + 1 }

/-- A worker who was roused has the lock. -/
def wake (s : Floor α) : Floor α :=
  { s with roused := s.roused - 1 }

/-- A worker whose job has ended has the lock; the job is given by its place among those that
run. -/
def putDown (s : Floor α) (index : Nat) : Floor α :=
  { s with running := s.running.eraseIdx index, busy := s.busy - 1, idle := s.idle + 1 }

/-- What a worker without a job, which is counted as idle, does with the lock. -/
def turn (limits : Limits) (late : Bool) (s : Floor α) : Floor α :=
  match s.queue with
  | job :: queue => { s with idle := s.idle - 1, queue, running := job :: s.running }
  | [] =>
    if s.closed || (late && limits.least < s.live) then
      { s with idle := s.idle - 1, live := s.live - 1 }
    else { s with parked := s.parked + 1 }

/-- Takes on no more jobs, and notifies all workers the first time. -/
def close (s : Floor α) : Floor α :=
  if s.closed then s else { s with closed := true, alarms := s.alarms + 1 }

/-- A step of somebody, if it can be made. -/
def step (limits : Limits) (s : Floor α) : Move α → Option (Floor α)
  | .submit job => some (s.submit limits job)
  | .call =>
    if s.calls = 0 then none
    else if s.parked = 0 then some { s with calls := s.calls - 1 }
    else some { s with calls := s.calls - 1, parked := s.parked - 1, roused := s.roused + 1 }
  | .alarm =>
    if s.alarms = 0 then none
    else some { s with alarms := s.alarms - 1, parked := 0, roused := s.roused + s.parked }
  | .rouse =>
    if s.parked = 0 then none
    else some { s with parked := s.parked - 1, roused := s.roused + 1 }
  | .begin late =>
    if s.starting = 0 then none
    else some (s.enter.turn limits late)
  | .resume late =>
    if s.roused = 0 then none
    else some (s.wake.turn limits late)
  | .finish index late =>
    if s.running.length ≤ index then none
    else some ((s.putDown index).turn limits late)
  | .close => some s.close

/-- The floors that steps lead to from an empty one. -/
inductive Reachable (limits : Limits) : Floor α → Prop where
  | empty : Reachable limits {}
  | step {s t : Floor α} (move : Move α) :
      Reachable limits s → s.step limits move = some t → Reachable limits t

/-- The floor that steps lead to, if all of them can be made. -/
def run (limits : Limits) (s : Floor α) (moves : List (Move α)) : Option (Floor α) :=
  moves.foldlM (fun s move => s.step limits move) s

end Floor

namespace Crew

variable {α : Type}

/-- A settled crew: whoever holds no job is parked. -/
def floor (c : Crew α) : Floor α where
  live := c.live
  idle := c.idle
  busy := c.busy
  closed := c.closed
  parked := c.idle
  running := c.held

/-- Where a second job runs when nobody has picked up the first one yet. -/
def placeBehind (limits : Limits) (c : Crew α) (first : α) : Submission :=
  (c.floor.submit limits first).place limits

end Crew

end TaskLedger
