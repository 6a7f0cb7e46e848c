import TaskLedger.CommandLine.Check
import TaskLedger.CommandLine.Overview
import TaskLedger.CommandLine.Run

/-!
# Answers

What a command answers in a world, and the world after it.  Only a run changes the world: a check
and an overview read a file.
-/

namespace TaskLedger.CommandLine

/-- The answer to a command, and the world after it.  A run begins at the given instant. -/
def Command.answer (start : Instant) (g : StdGen) (w : World) : Command → Response × World
  | .run request => request.answer start g w
  | .check request => (request.answer w.files, w)
  | .overview request => (request.answer w.files, w)

end TaskLedger.CommandLine
