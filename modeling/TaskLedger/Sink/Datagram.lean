import Std.Data.TreeMap
import TaskLedger.Outcome.Packed
import TaskLedger.Sink.Basic
import TaskLedger.Sink.World

/-!
# Sinks that send datagrams

A network sink sends its batches to an address.  A record is a piece of octets, either a line of
JSON or its packed form behind a length, and pieces are put together in order to datagrams of a
limited size.

* `Target.ofParams` reads where and how a sink sends from its parameters;
* `Target.pieces` are the pieces of a batch, of which none may be longer than a datagram;
* `Datagram.groups` puts pieces together: a piece opens a new datagram exactly when the one before
  it has no room left for it;
* `Datagram.transmit` sends datagrams up to the first one that is refused.
-/

namespace TaskLedger

open Text

/-- How a record is written: as a line of JSON, or as octets behind their length. -/
inductive PieceFormat where
  | line
  | packed
  deriving DecidableEq, Repr

namespace PieceFormat

/-- The name of a format. -/
def name : PieceFormat → String
  | line => "json"
  | packed => "bincode"

/-- The format with a given name. -/
def ofName? (s : String) : Option PieceFormat :=
  if s = "json" then some line else if s = "bincode" then some packed else none

theorem ofName?_name (format : PieceFormat) : ofName? format.name = some format := by
  cases format <;> decide

/-- The longest packed record whose length fits in four octets. -/
def maxPacked : Nat := UInt32.size - 1

/-- A record as a piece. -/
def piece {k : Kind} (format : PieceFormat) (r : Record k) : Except SinkFault (List UInt8) :=
  match format with
  | line => .ok (Packed.octets r.line ++ [10])
  | packed =>
    if maxPacked < r.packed.length then .error (.serialization "record longer than u32::MAX")
    else .ok r.framed

end PieceFormat

/-- Where and how a network sink sends.  Pieces are put together up to the size. -/
structure Target where
  address : Address
  format : PieceFormat
  maxSize : Nat
  deriving DecidableEq

/-- Why parameters name no target: there is no address, the address is none, or the format is not
known. -/
inductive TargetFault where
  | noAddress
  | badAddress (address : String)
  | badFormat (format : String)
  deriving DecidableEq, Repr

/-- The text of a fault. -/
def TargetFault.message : TargetFault → String
  | noAddress => "missing 'addr' parameter"
  | badAddress address => "invalid address '" ++ address ++ "': invalid socket address syntax"
  | badFormat format => "unknown format '" ++ format ++ "'"

namespace Target

/-- The size of a datagram if none is given. -/
def usualSize : Nat := 65000

/-- The size that a parameter names, the usual one if it is no number below 2 ^ 64. -/
def sizeOf (param : Option String) : Nat :=
  (param.bind (Decimal.natural? UInt64.size)).getD usualSize

/-- The format that a parameter names. -/
def formatOf : Option String → Except TargetFault PieceFormat
  | none => .ok .line
  | some name => match PieceFormat.ofName? name with
    | some format => .ok format
    | none => .error (.badFormat name)

/-- The target that parameters name. -/
def ofParams (params : Std.TreeMap String String) : Except TargetFault Target :=
  match params["addr"]? with
  | none => .error .noAddress
  | some address =>
    match Address.ofText? address with
    | none => .error (.badAddress address)
    | some host =>
      (formatOf params["format"]?).map fun format =>
        ⟨host, format, sizeOf params["max_packet_size"]?⟩

/-- The fault of a record that is too long. -/
def tooLong (sink : String) (size max : Nat) : SinkFault :=
  .write sink ("record of " ++ Decimal.text size ++ " bytes exceeds max packet size "
    ++ Decimal.text max)

/-- A record as a piece that fits in a datagram. -/
def piece {k : Kind} (target : Target) (sink : String) (r : Record k) :
    Except SinkFault (List UInt8) := do
  let p ← target.format.piece r
  if target.maxSize < p.length then throw (tooLong sink p.length target.maxSize)
  return p

/-- The pieces of records, in order. -/
def pieces {k : Kind} (target : Target) (sink : String) (records : List (Record k)) :
    Except SinkFault (List (List UInt8)) :=
  records.mapM (target.piece sink)

end Target

namespace Datagram

/-- The pieces that still go to a datagram with some room, and the groups of pieces of the datagrams
after it, which may have `size` octets each. -/
def groupsFrom (size room : Nat) : List (List UInt8) → List (List UInt8) × List (List (List UInt8))
  | [] => ([], [])
  | p :: ps =>
    if p.length ≤ room then
      let (group, later) := groupsFrom size (room - p.length) ps
      (p :: group, later)
    else
      let (group, later) := groupsFrom size (size - p.length) ps
      ([], (p :: group) :: later)

/-- Pieces in groups, one for each datagram of at most `size` octets. -/
def groups (size : Nat) : List (List UInt8) → List (List (List UInt8))
  | [] => []
  | p :: ps =>
    let (group, later) := groupsFrom size (size - p.length) ps
    (p :: group) :: later

/-- Pieces put together to datagrams. -/
def packets (size : Nat) (pieces : List (List UInt8)) : List (List UInt8) :=
  (groups size pieces).map List.flatten

/-- The datagrams of records. -/
def pack {k : Kind} (target : Target) (sink : String) (records : List (Record k)) :
    Except SinkFault (List (List UInt8)) := do
  return packets target.maxSize (← target.pieces sink records)

/-- Sends datagrams up to the first one that is refused. -/
def transmit (address : Address) (w : World) :
    List (List UInt8) → Except SystemFault Unit × World
  | [] => (.ok (), w)
  | packet :: later =>
    match w.send address packet with
    | .error fault => (.error fault, w)
    | .ok w => transmit address w later

/-- What a network sink does with a batch. -/
def persist (name : String) (target : Target) (batch : Batch) (w : World) : Delivery × World :=
  match pack target name batch.records with
  | .error fault => ({ fault := some fault }, w)
  | .ok packets =>
    match transmit target.address w packets with
    | (.ok (), w) => ({}, w)
    | (.error fault, w) => ({ fault := some (.write name fault.message) }, w)

/-- The pieces are put together without loss and in order. -/
theorem flatten_groupsFrom (size room : Nat) (pieces : List (List UInt8)) :
    (groupsFrom size room pieces).1 ++ (groupsFrom size room pieces).2.flatten = pieces := by
  induction pieces generalizing room with
  | nil => rfl
  | cons p ps ih =>
    unfold groupsFrom
    split
    · simpa using ih (room - p.length)
    · simpa using ih (size - p.length)

theorem flatten_groups (size : Nat) (pieces : List (List UInt8)) :
    (groups size pieces).flatten = pieces := by
  cases pieces with
  | nil => rfl
  | cons p ps => simpa [groups] using flatten_groupsFrom size (size - p.length) ps

end Datagram

/-- A network sink with a target, to which there has to be a way. -/
def Sink.datagrams (name : String) (target : Target) (w : World) :
    Except SystemFault (Sink World) :=
  match w.barrier target.address with
  | some fault => .error fault
  | none => .ok ⟨name, Datagram.persist name target⟩

/-- A network sink with the given parameters. -/
def Sink.network (name : String) (params : Std.TreeMap String String) (w : World) :
    Except SinkFault (Sink World) := do
  let target ← (Target.ofParams params).mapError fun fault => .connection name fault.message
  (Sink.datagrams name target w).mapError fun fault => .connection name fault.message

end TaskLedger
