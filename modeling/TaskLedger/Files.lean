import TaskLedger.Sink.Fault

/-!
# Files

A tree of directories and files, as far as a ledger reads and writes one.  A `Place` is where
something lies: the names on the way from the root.  A path is a text that leads from the working
directory, or from the root if it begins with a slash, over names, `.` and `..` to a place.  Every
step, also one that stays where it is, can be taken from a directory only; a slash at the end is
such a step where something is looked for, and says nothing where a directory is made.

* `Files.makeDirectories` makes a directory and all that are missing above it;
* `Files.append` adds octets to the end of a file, which it makes if it is not there;
* `Files.provide` puts a file and the directories above it;
* `Files.read` gives the octets of a file;
* `Files.removeTree` takes a directory away with everything below it.

There are no links, so that `..` always leads back.
-/

namespace TaskLedger

/-- The names on the way from the root, the last one first. -/
abbrev Place := List String

/-- What lies at a place: a directory, or a file and its octets. -/
inductive Entry where
  | directory
  | file (content : List UInt8)
  deriving DecidableEq

/-- What lies where below the root, and the working directory, where relative paths begin. -/
structure Files where
  entries : List (Place × Entry)
  here : Place

namespace Files

/-- An empty working directory, and the file that swallows everything. -/
def fresh : Files where
  entries := [(["work"], .directory), (["dev"], .directory), (["null", "dev"], .file [])]
  here := ["work"]

/-- What lies at a place; the root is a directory. -/
def find? (fs : Files) (place : Place) : Option Entry :=
  if place = [] then some .directory else fs.entries.lookup place

/-- Puts an entry to a place. -/
def set (fs : Files) (place : Place) (entry : Entry) : Files :=
  { fs with entries := fs.entries.filter (fun p => p.1 ≠ place) ++ [(place, entry)] }

/-- The parts of a path between its slashes. -/
def steps (path : String) : List String :=
  (path.splitOn "/").filter (· ≠ "")

/-- Whether a step stays where it is. -/
def isStay (step : String) : Bool :=
  step = "."

/-- Whether a path begins at the root. -/
def isAbsolute (path : String) : Bool :=
  path.startsWith "/"

/-- The place where a path begins. -/
def start (fs : Files) (path : String) : Place :=
  if isAbsolute path then [] else fs.here

/-- A name with more octets is refused. -/
def maxName : Nat := 255

/-- One step from a place, which has to be a directory. -/
def step (fs : Files) (place : Place) (name : String) : Except SystemFault Place :=
  match fs.find? place with
  | none => .error .notFound
  | some (.file _) => .error .notDirectory
  | some .directory =>
    if isStay name then .ok place
    else if name = ".." then .ok place.tail
    else if maxName < name.utf8ByteSize then .error .nameTooLong
    else .ok (name :: place)

/-- The place that steps from a place lead to. -/
def walk (fs : Files) (place : Place) (names : List String) : Except SystemFault Place :=
  names.foldlM fs.step place

/-- A path with more octets is refused. -/
def maxPath : Nat := 4095

/-- A path that may lead somewhere. -/
def checkPath (path : String) : Except SystemFault Unit :=
  if path.contains '\x00' then .error .nulInName
  else if maxPath < path.utf8ByteSize then .error .nameTooLong
  else .ok ()

/-- The place that a path leads to, whether something lies there or not; a path with a slash at its
end leads to a directory. -/
def locate (fs : Files) (path : String) : Except SystemFault Place := do
  checkPath path
  if path = "" then .error .notFound
  else fs.walk (fs.start path) (if path.endsWith "/" then steps path ++ ["."] else steps path)

/-- Whether steps from a place lead to a directory. -/
def isDirectory (fs : Files) (place : Place) (names : List String) : Bool :=
  match fs.walk place names with
  | .ok place => fs.find? place = some .directory
  | .error _ => false

/-- Makes the directory that steps from a place lead to. -/
def makeDirectory (fs : Files) (place : Place) (names : List String) :
    Except SystemFault Files := do
  let place ← fs.walk place names
  match fs.find? place with
  | some _ => .error .alreadyThere
  | none => .ok (fs.set place .directory)

/-- The beginnings of a way that end with a step that leads somewhere, the longest one first.  All
steps are given from the last one. -/
def beginnings : List String → List (List String)
  | [] => []
  | step :: above => if isStay step then beginnings above else (step :: above) :: beginnings above

/-- A way, and the beginnings of it that lead to the directories above its last step that leads
somewhere. -/
def upward (way : List String) : List (List String) :=
  if way = [] then [] else way :: beginnings ((way.dropWhile isStay).drop 1)

/-- Makes the directory that steps from a place lead to, unless it is there, whatever the reason is
that it cannot be made.  Also told are the files. -/
def ensureDirectory (fs : Files) (place : Place) (names : List String) :
    Except SystemFault Unit × Files :=
  match fs.makeDirectory place names with
  | .ok fs => (.ok (), fs)
  | .error fault => (if fs.isDirectory place names then .ok () else .error fault, fs)

/-- Makes the directory that the first of several ways leads to, and if something above it is
missing, first those that the other ways lead to.  Also told are the files: what was made stays
where something else cannot be made. -/
def makeAll (fs : Files) (place : Place) : List (List String) → Except SystemFault Unit × Files
  | [] => (.ok (), fs)
  | way :: above =>
    match fs.makeDirectory place way.reverse with
    | .error .notFound =>
      match makeAll fs place above with
      | (.error fault, fs) => (.error fault, fs)
      | (.ok (), fs) => fs.ensureDirectory place way.reverse
    | _ => fs.ensureDirectory place way.reverse

/-- Makes a directory and those above it that are missing.  Also told are the files. -/
def makeDirectories (fs : Files) (path : String) : Except SystemFault Unit × Files :=
  match checkPath path with
  | .error fault => (.error fault, fs)
  | .ok () => fs.makeAll (fs.start path) (upward (steps path).reverse)

/-- The octets of a file. -/
def read (fs : Files) (path : String) : Except SystemFault (List UInt8) := do
  match fs.find? (← fs.locate path) with
  | none => .error .notFound
  | some .directory => .error .isDirectory
  | some (.file content) => .ok content

/-- The text of a file. -/
def readText (fs : Files) (path : String) : Except SystemFault String := do
  match String.fromUTF8? ⟨(← fs.read path).toArray⟩ with
  | some s => .ok s
  | none => .error .notText

/-- Whether something lies where a path leads. -/
def isThere (fs : Files) (path : String) : Bool :=
  match fs.locate path with
  | .ok place => (fs.find? place).isSome
  | .error _ => false

/-- Adds octets to the end of a file, which is made if it is not there. -/
def append (fs : Files) (path : String) (more : List UInt8) : Except SystemFault Files := do
  let place ← fs.locate path
  match fs.find? place with
  | some .directory => .error .isDirectory
  | some (.file content) => .ok (fs.set place (.file (content ++ more)))
  | none => .ok (fs.set place (.file more))

/-- The path to the directory that a path names something in. -/
def above (path : String) : String :=
  "/".intercalate (path.splitOn "/").dropLast

/-- Puts a file where a path leads, in directories that are made if they are missing.  Nothing
happens if there cannot be such a file. -/
def provide (fs : Files) (path : String) (content : List UInt8) : Files :=
  match fs.makeDirectories (above path) with
  | (.error _, _) => fs
  | (.ok (), made) => (made.append path content).toOption.getD fs

/-- An empty working directory that an absolute path leads to. -/
def freshAt (path : String) : Files :=
  match fresh.makeDirectories path with
  | (.ok (), fs) => { fs with here := (fs.locate path).toOption.getD fs.here }
  | (.error _, _) => fresh

/-- Whether a place lies below another one or is that place. -/
def isBelow (place top : Place) : Bool :=
  top.isSuffixOf place

/-- Takes a directory away with everything below it; the working directory itself stays. -/
def removeTree (fs : Files) (path : String) : Files :=
  match fs.locate path with
  | .error _ => fs
  | .ok top =>
    if fs.find? top = some .directory then
      { fs with entries := fs.entries.filter fun p => !isBelow p.1 top || isBelow fs.here p.1 }
    else fs

/-- A path below a directory. -/
def join (directory name : String) : String :=
  if directory = "" || directory.endsWith "/" then directory ++ name else directory ++ "/" ++ name

/-- The last name on a path, if it leads to a name. -/
def lastName? (path : String) : Option String :=
  match ((steps path).filter fun step => !isStay step).getLast? with
  | some name => if name = ".." then none else some name
  | none => none

/-- What follows the last point of a name; a name has no ending when nothing stands before it. -/
def ending? (name : String) : Option String :=
  match (name.splitOn ".").reverse with
  | last :: before :: more => if more.isEmpty ∧ before = "" then none else some last
  | _ => none

/-- The absolute path to a place. -/
def pathTo (place : Place) : String :=
  "/" ++ "/".intercalate place.reverse

/-- The octets at the end of a file that it did not have in `before`. -/
def news (before : Files) (place : Place) (content : List UInt8) : List UInt8 :=
  match before.find? place with
  | some (.file old) => content.drop old.length
  | _ => content

/-- The files below the working directory, by the path that leads to each of them. -/
def listing (fs : Files) : List (String × List UInt8) :=
  fs.entries.filterMap fun (place, entry) =>
    match entry with
    | .file content =>
      if isBelow place fs.here then
        some ("/".intercalate (place.take (place.length - fs.here.length)).reverse, content)
      else none
    | .directory => none

end Files

end TaskLedger
