import Std.Data.TreeMap
import TaskLedger.Instant.Text
import TaskLedger.Outcome.Packed
import TaskLedger.Sink.Basic
import TaskLedger.Sink.World

/-!
# Sinks that append to files

A file sink keeps the records of either kind in a directory of their own below its base directory,
in one file a day, one record a line.

* `DayFile.path` is where the records of a kind go on a day;
* `DayFile.write` appends a batch.  The sink makes the directory of a kind before its first write to
  it, and expects it to stay from then on.
-/

namespace TaskLedger

namespace DayFile

/-- The base directory that the parameters of a sink name. -/
def base (params : Std.TreeMap String String) : String :=
  params.getD "base_path" "./task-logs"

/-- The directory of the records of a kind. -/
def directory (base : String) (k : Kind) : String :=
  Files.join base k.name

/-- The file of the records of a kind on a day. -/
def path (base : String) (k : Kind) (day : Date) : String :=
  Files.join (directory base k) (day.text ++ ".jsonl")

/-- The lines of records, each with the character that ends it. -/
def lines {k : Kind} (records : List (Record k)) : List UInt8 :=
  records.flatMap fun r => Packed.octets r.line ++ [10]

/-- Makes the directory of a kind, unless the sink made it before.  Also told are the files. -/
def prepare (base : String) (made : Bool) (k : Kind) (fs : Files) :
    Except SystemFault Unit × Files :=
  if made then (.ok (), fs) else fs.makeDirectories (directory base k)

/-- Appends a batch to its file.  Also told are the files and whether the sink has made the
directory. -/
def write (base : String) (day : Date) (made : Bool) (batch : Batch) (fs : Files) :
    Except SystemFault Unit × Bool × Files :=
  match prepare base made batch.kind fs with
  | (.error fault, fs) => (.error fault, made, fs)
  | (.ok (), fs) =>
    match fs.append (path base batch.kind day) (lines batch.records) with
    | .error fault => (.error fault, true, fs)
    | .ok fs => (.ok (), true, fs)

/-- What a file sink does with a batch. -/
def persist (number : Nat) (name base : String) (batch : Batch) (w : World) : Delivery × World :=
  let (result, made, files) :=
    write base w.today (w.made.contains (number, batch.kind)) batch w.files
  let w := { w with
    files
    made := if made then (number, batch.kind) :: w.made else w.made }
  match result with
  | .ok () => ({}, w)
  | .error fault => ({ fault := some (.write name fault.message) }, w)

end DayFile

/-- A file sink with a number and a base directory, which is made at once.  If it cannot be made,
there is no sink, and what was made on the way is not told. -/
def Sink.dayFiles (number : Nat) (name base : String) (w : World) :
    Except SystemFault (Sink World × World) :=
  match w.files.makeDirectories base with
  | (.error fault, _) => .error fault
  | (.ok (), files) => .ok (⟨name, DayFile.persist number name base⟩, { w with files })

end TaskLedger
