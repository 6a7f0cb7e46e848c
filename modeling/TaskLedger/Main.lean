import Std.Async.UDP
import Std.Time.DateTime.Timestamp
import TaskLedger.CommandLine.Answer
import TaskLedger.CommandLine.Help

/-!
# The program

Reads the words of the command line and the file of settings that they name, tries the ways to the
addresses that the settings send to, and does what the answer says: prints it, adds to the files
what was written to them, and sends the datagrams.
-/

namespace TaskLedger.CommandLine

/-- The file of settings that a command names. -/
def Command.config? : Command → Option String
  | .run request => request.config
  | .check request => some request.config
  | .overview request => some request.config

/-- The working directory, with the file that a path leads to. -/
def readFiles (config : Option String) : IO Files := do
  let fs := Files.freshAt (← IO.currentDir).toString
  match config with
  | none => return fs
  | some path =>
    try
      if ← (← IO.FS.realPath path).isDir then return (fs.makeDirectories path).2
      else return fs.provide path (← IO.FS.readBinFile path).toList
    catch _ => return fs

/-- Adds to the files what was written to them. -/
def writeFiles (before after : Files) : IO Unit := do
  for (place, entry) in after.entries do
    if before.find? place != some entry then
      match entry with
      | .directory => IO.FS.createDirAll (Files.pathTo place)
      | .file content =>
        let file ← IO.FS.Handle.mk (Files.pathTo place) .append
        file.write ⟨(before.news place content).toArray⟩

/-- An address as the network knows it. -/
def socketAddress : Address → Std.Net.SocketAddress
  | .v4 octets port => .v4 ⟨⟨Vector.ofFn fun i => UInt8.ofNat (octets.getD i 0)⟩, UInt16.ofNat port⟩
  | .v6 groups _ port =>
    .v6 ⟨⟨Vector.ofFn fun i => UInt16.ofNat (groups.getD i 0)⟩, UInt16.ofNat port⟩

/-- A socket that is connected to an address. -/
def connect (address : Address) : IO Std.Async.UDP.Socket := do
  let socket ← Std.Async.UDP.Socket.mk
  socket.connect (socketAddress address)
  return socket

/-- The number of a refusal, zero if it has none. -/
def errorNumber : IO.Error → Nat
  | .permissionDenied _ n _ | .invalidArgument _ n _ | .resourceExhausted _ n _
  | .noSuchThing _ n _ | .otherError n _ | .resourceVanished n _ | .unsupportedOperation n _
  | .unsatisfiedConstraints n _ | .timeExpired n _ | .illegalOperation n _ => UInt32.size - n.toNat
  | _ => 0

/-- The refusal of a connection by its number. -/
def refusal? : Nat → Option SystemFault
  | 13 => some .permissionDenied
  | 22 => some .noLink
  | 99 => some .noOwnAddress
  | 101 => some .unreachable
  | _ => none

/-- Why there is no way to an address, if there is none.  An address with a scope is not tried. -/
def tryWay (address : Address) : IO (Option SystemFault) := do
  if address.scope ≠ 0 then return none
  try
    discard (connect address)
    return none
  catch error =>
    match refusal? (errorNumber error) with
    | some fault => return some fault
    | none => throw error

/-- The addresses that a command sends to. -/
def Command.addresses (files : Files) : Command → List Address
  | .run request =>
    if request.dryRun then []
    else match request.settings files with
      | .error _ => []
      | .ok s => (s.sinks.filter (·.form = .network)).filterMap fun sink =>
        (Target.ofParams sink.params).toOption.map (·.address)
  | _ => []

/-- Sends datagrams. -/
def send (packets : List (Address × List UInt8)) : IO Unit := do
  for (address, packet) in packets do
    ((← connect address).send ⟨packet.toArray⟩ none).block

/-- The present instant. -/
def now : IO Instant := do
  let nanos := (← Std.Time.Timestamp.now).toNanosecondsSinceUnixEpoch.val
  return (Instant.ofUnixNanos? nanos).getD .epoch

/-- Obeys a command, and gives the exit code.  A datagram that is refused is an error of the
command. -/
def Command.obey (command : Command) : IO UInt32 := do
  let start ← now
  let files ← readFiles command.config?
  let ways ← (command.addresses files).mapM fun address => return (address, ← tryWay address)
  let world : World :=
    { files, today := start.date, barrier := fun address => (ways.lookup address).join }
  let (response, world) := command.answer start (mkStdGen (← IO.rand 0 UInt32.size)) world
  IO.print response.printed
  writeFiles files world.files
  send world.sent
  if response.crashed then return 101
  match response.failure with
  | none => return 0
  | some chain =>
    IO.eprint (Response.failureText chain)
    return 1

end TaskLedger.CommandLine

/-- Obeys the words of the command line. -/
def main (words : List String) : IO UInt32 := do
  match TaskLedger.CommandLine.Request.ofWords words with
  | .ok request => request.command.obey
  | .error fault =>
    if fault.isWanted then
      IO.println fault.message
      return 0
    else
      IO.eprintln fault.message
      return 2
