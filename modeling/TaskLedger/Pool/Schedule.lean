import TaskLedger.Pool.Crew

/-!
# Schedules

A schedule is a sequence of calls to a crew, numbered from zero, with jobs whose course is known: a
job runs to its end, crashes, or holds its worker until it is released.  With the caller a job that
would hold ends at once.

`Schedule.step` makes one call.  The schedule keeps which jobs ended, each by the number of the call
that submitted it, and whether they crashed.
-/

namespace TaskLedger

/-- The course of a job: it runs to its end, it waits for its release, or it crashes. -/
inductive Job where
  | run
  | hold
  | crash
  deriving DecidableEq, Repr

/-- A call to a crew: to submit a job, to release one that is held, given by its place among those,
or else the oldest one, to wait for all jobs to end, to close the crew, or to do nothing. -/
inductive Call where
  | submit (job : Job)
  | release (index : Nat := 0)
  | wait
  | close
  | look
  deriving DecidableEq, Repr

/-- What a call answers: where a job went, and on which thread it ran; whether there was a job to
release, or no job to wait for; or nothing. -/
inductive Reply where
  | submitted (submission : Submission) (thread : Thread)
  | told (yes : Bool)
  | silent
  deriving DecidableEq, Repr

/-- A crew and the jobs that it was given.  A job is known by the number of the call that submitted
it.  The jobs that ended are in order, each with whether it crashed. -/
structure Schedule where
  crew : Crew Nat := {}
  calls : Nat := 0
  ended : List (Nat × Bool) := []

namespace Schedule

/-- Submits the job of the next call. -/
def submit (limits : Limits) (s : Schedule) (job : Job) : Submission × Schedule :=
  let holds := job == .hold && s.crew.place limits != .callerRan
  let (submission, crew) := s.crew.submit limits (if holds then some s.calls else none)
  (submission, { s with
    crew
    ended := if holds then s.ended else s.ended ++ [(s.calls, job == .crash)] })

/-- Releases a job that is held, given by its place among those. -/
def release (limits : Limits) (s : Schedule) (index : Nat) : Bool × Schedule :=
  let (job, crew) := s.crew.releaseAt limits index
  (job.isSome, { s with crew, ended := s.ended ++ (job.map (·, false)).toList })

/-- What a call does, apart from being counted. -/
def perform (limits : Limits) (s : Schedule) : Call → Reply × Schedule
  | .submit job =>
    let (submission, next) := s.submit limits job
    (.submitted submission (s.crew.nextThread limits), next)
  | .release index =>
    let (yes, next) := s.release limits index
    (.told yes, next)
  | .wait => (.told s.crew.isDone, { s with crew := s.crew.settle limits })
  | .close => (.silent, { s with crew := s.crew.close limits })
  | .look => (.silent, { s with crew := s.crew.settle limits })

/-- Makes a call. -/
def step (limits : Limits) (s : Schedule) (call : Call) : Reply × Schedule :=
  let (reply, next) := s.perform limits call
  (reply, { next with calls := s.calls + 1 })

/-- Makes calls in order. -/
def run (limits : Limits) (s : Schedule) : List Call → Schedule
  | [] => s
  | call :: calls => run limits (s.step limits call).2 calls

/-- The jobs that ended without a crash, by their numbers in order. -/
def finished (s : Schedule) : List Nat :=
  ((s.ended.filter fun job => !job.2).map (·.1)).mergeSort

@[simp] theorem run_nil (limits : Limits) (s : Schedule) : run limits s [] = s := rfl

@[simp] theorem run_cons (limits : Limits) (s : Schedule) (call : Call) (calls : List Call) :
    run limits s (call :: calls) = run limits (s.step limits call).2 calls := rfl

end Schedule

end TaskLedger
