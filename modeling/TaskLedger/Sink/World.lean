import TaskLedger.Files
import TaskLedger.Instant.Calendar
import TaskLedger.Outcome.Kind
import TaskLedger.Sink.Address
import TaskLedger.Sink.Fault

/-!
# The world of the configured sinks

Configured sinks act on files and on a network.  The world also says which day it is, by which files
are named, and which directories the file sinks made, each of which has a number.
-/

namespace TaskLedger

namespace Address

/-- Whether a host is one of a single link, or a group of such hosts. -/
def isOfLink : Address → Bool
  | v4 .. => false
  | v6 groups .. =>
    let first := groups.headD 0
    first / 64 = 0xfe80 / 64 || (first / 256 = 0xff && (first % 16 = 1 || first % 16 = 2))

/-- Whether a host of version 6 stands for one of version 4. -/
def isMapped : Address → Bool
  | v4 .. => false
  | v6 groups .. => groups.take 6 = [0, 0, 0, 0, 0, 0xffff]

/-- The scope of a host, zero if it has none. -/
def scope : Address → Nat
  | v4 .. => 0
  | v6 _ scope _ => scope

/-- Why there is no way to an address without any network. -/
def alone (address : Address) : SystemFault :=
  if address.isV4 || address.isMapped then .unreachable
  else if address.isOfLink && address.scope = 0 then .noLink
  else .noOwnAddress

end Address

/-- What configured sinks act on.

* `made` has the file sinks, by their numbers, that made the directory of a kind;
* `barrier` tells why there is no way to an address, if there is none;
* `sent` has the datagrams that were sent, in order. -/
structure World where
  files : Files := .fresh
  today : Date
  made : List (Nat × Kind) := []
  barrier : Address → Option SystemFault
  sent : List (Address × List UInt8) := []

namespace World

/-- The longest datagram to an address.  A packet says in 16 bits how long it is; a packet of
version 4 counts its own 20 octets besides the 8 before every datagram, one of version 6 only the
latter. -/
def maxDatagram (address : Address) : Nat :=
  if address.isV4 || address.isMapped then 65507 else 65527

/-- Sends a datagram. -/
def send (w : World) (address : Address) (packet : List UInt8) : Except SystemFault World :=
  if maxDatagram address < packet.length then .error .messageTooLong
  else .ok { w with sent := w.sent ++ [(address, packet)] }

end World

end TaskLedger
