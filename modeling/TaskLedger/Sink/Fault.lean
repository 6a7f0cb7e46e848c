/-!
# What can go wrong outside

`SystemFault` names the ways in which a file or a socket refuses, `SinkFault` those in which a sink
does.  The messages are the ones that are shown to the user.
-/

namespace TaskLedger

/-- Why the system refused.  A message that is too long is a datagram, and the four faults after it
are about its address: it may not be sent to, there is no way to it, there is no address to send
from, or it is good on one link only and does not say on which. -/
inductive SystemFault where
  | notFound
  | alreadyThere
  | notDirectory
  | isDirectory
  | nameTooLong
  | messageTooLong
  | permissionDenied
  | unreachable
  | noOwnAddress
  | noLink
  | nulInName
  | notText
  deriving DecidableEq, Repr

/-- The text of a refusal. -/
def SystemFault.message : SystemFault → String
  | notFound => "No such file or directory (os error 2)"
  | alreadyThere => "File exists (os error 17)"
  | notDirectory => "Not a directory (os error 20)"
  | isDirectory => "Is a directory (os error 21)"
  | nameTooLong => "File name too long (os error 36)"
  | messageTooLong => "Message too long (os error 90)"
  | permissionDenied => "Permission denied (os error 13)"
  | unreachable => "Network is unreachable (os error 101)"
  | noOwnAddress => "Cannot assign requested address (os error 99)"
  | noLink => "Invalid argument (os error 22)"
  | nulInName => "file name contained an unexpected NUL byte"
  | notText => "stream did not contain valid UTF-8"

/-- Why a sink failed: a batch could not be written, the sink could not be connected, or a record
has no packed form. -/
inductive SinkFault where
  | write (sink cause : String)
  | connection (sink cause : String)
  | serialization (cause : String)
  deriving DecidableEq, Repr

/-- The text of a failure. -/
def SinkFault.message : SinkFault → String
  | write sink cause => "sink '" ++ sink ++ "' write error: " ++ cause
  | connection sink cause => "sink '" ++ sink ++ "' connection error: " ++ cause
  | serialization cause => "serialization error: " ++ cause

/-- A sink of a route that could not be built, by its name, and why. -/
structure RouteFault where
  sink : String
  cause : String
  deriving DecidableEq, Repr

/-- The text of the failure of a route. -/
def RouteFault.message (fault : RouteFault) : String :=
  "failed to create sink '" ++ fault.sink ++ "': " ++ fault.cause

end TaskLedger
