import TaskLedger.Instant.Text
import TaskLedger.Outcome.State

/-!
# Outcome records

A record names the class of its task or job, says how it ended and when its stages were reached.
`Record k` is the type of the records of kind `k`.

* `Record.taskClass` is the class, by which levels are looked up;
* `Record.key` joins what tells categories apart: the class, then `#` and the tag, then `@` and the
  target, where a tag or target that is absent or empty is left out.
-/

namespace TaskLedger

/-- How one execution of a task ended.  The task was put into a queue, taken out of it, started and
ended; it has a number, a class and a tag, and ran on a target.  An absent member was not told. -/
structure Runner.Outcome where
  taskId : Option UInt64 := none
  taskClass : String
  taskTag : Option String := none
  runTarget : Option String := none
  state : Runner.State
  queuedAt : Option Instant := none
  consumedAt : Option Instant := none
  runAt : Option Instant := none
  finishedAt : Option Instant := none
  errorInfo : Option String := none
  deriving DecidableEq

/-- How one firing of a scheduled job ended.  The job was due, started and ended, and may be due
again; it has a class and a parameter, and ran on a target.  An absent member was not told. -/
structure Croner.Outcome where
  taskClass : String
  taskParam : Option String := none
  runTarget : Option String := none
  state : Croner.State
  scheduledAt : Option Instant := none
  runAt : Option Instant := none
  finishedAt : Option Instant := none
  nextAt : Option Instant := none
  errorInfo : Option String := none
  deriving DecidableEq

/-- The records of a kind. -/
abbrev Record : Kind → Type
  | .runner => Runner.Outcome
  | .croner => Croner.Outcome

/-- A sign in front of a part of a key; nothing for a part that is absent or empty. -/
def keyPart (sign : Char) : Option String → List Char
  | none => []
  | some part => if part.toList = [] then [] else sign :: part.toList

/-- The key of a category with the given class, tag and target. -/
def joinKey (taskClass : String) (tag target : Option String) : String :=
  String.ofList (taskClass.toList ++ keyPart '#' tag ++ keyPart '@' target)

namespace Record

instance : (k : Kind) → DecidableEq (Record k)
  | .runner => inferInstanceAs (DecidableEq Runner.Outcome)
  | .croner => inferInstanceAs (DecidableEq Croner.Outcome)

/-- The class of the task or job. -/
def taskClass : {k : Kind} → Record k → String
  | .runner, r => Runner.Outcome.taskClass r
  | .croner, r => Croner.Outcome.taskClass r

/-- The key of the category of a record. -/
def key : {k : Kind} → Record k → String
  | .runner, (r : Runner.Outcome) => joinKey r.taskClass r.taskTag r.runTarget
  | .croner, (r : Croner.Outcome) => joinKey r.taskClass none r.runTarget

/-- Whether the task or job failed. -/
def isFailure : {k : Kind} → Record k → Bool
  | .runner, (r : Runner.Outcome) => r.state.isFailure
  | .croner, (r : Croner.Outcome) => r.state.isFailure

/-- The form in which a record is kept: a scheduled job has an empty target rather than none. -/
def normal : {k : Kind} → Record k → Record k
  | .runner, r => r
  | .croner, (r : Croner.Outcome) => { r with runTarget := some (r.runTarget.getD "") }

end Record

end TaskLedger
