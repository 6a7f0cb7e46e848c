import TaskLedger.Settings.Basic
import TaskLedger.Toml.Reader

/-!
# Settings from TOML

The table of a document is read into the default settings, with the same members as an object.  A
table may also be given as a list of its values in order, of which later ones may be missing and
further ones do not count, and a name as a table with one empty member.  Members without a meaning
are passed over, but a number that is out of every range is at fault there, too.
-/

namespace TaskLedger.Settings

open Toml

/-- What a value stands for, if it fits. -/
abbrev Decoder (α : Type) := Node → Option α

namespace Decode

/-- The key under which a moment appears where a table is asked for. -/
def momentKey : String := "$__toml_private_datetime"

/-- The members of a table; a moment has one. -/
def members? : Node → Option Members
  | .table _ members => some members
  | .scalar (.moment s) => some [(momentKey, .scalar (.text s))]
  | _ => none

/-- The items of a list. -/
def items? : Node → Option (List Node)
  | .list items => some items
  | .tables items => some (items.map (.table .opened))
  | _ => none

/-- A text. -/
def text : Decoder String
  | .scalar (.text s) => some s
  | _ => none

/-- A number of 64 bits. -/
def word64 : Decoder UInt64
  | .scalar (.integer i) => if 0 ≤ i ∧ i < UInt64.size then some (UInt64.ofNat i.toNat) else none
  | _ => none

/-- Whether a value is a list or a table without parts. -/
def isHollow : Node → Bool
  | .table _ members => members.isEmpty
  | .list items => items.isEmpty
  | _ => false

/-- One of the names that `find?` knows. -/
def variant {α : Type} (find? : String → Option α) : Decoder α
  | .scalar (.text s) => find? s
  | .table _ [(key, node)] => if isHollow node then find? key else none
  | _ => none

/-- A table with free keys, put together by `insert`. -/
def dictionary {σ α : Type} (insert : String → α → σ → σ) (empty : σ) (decode : Decoder α) :
    Decoder σ := fun node => do
  (← members? node).foldlM (fun made (key, node) => (decode node).map fun a => insert key a made)
    empty

/-- A list of values. -/
def sequence {α : Type} (decode : Decoder α) : Decoder (List α) := fun node => do
  (← items? node).mapM decode

/-- A named member of a table: its key, whether it has to be there, and how its value is stored. -/
structure TableField (σ : Type) where
  name : String
  required : Bool
  decode : σ → Decoder σ

/-- A member that is decoded by `decode` and stored by `set`. -/
def TableField.of {σ α : Type} (name : String) (required : Bool) (decode : Decoder α)
    (set : α → σ → σ) : TableField σ where
  name
  required
  decode made node := (decode node).map fun a => set a made

/-- Whether a member of a table is one of the fields, or may be passed over. -/
def isAdmitted {σ : Type} (fields : List (TableField σ)) (member : String × Node) : Bool :=
  fields.any (·.name == member.1) || member.2.isInRange

/-- The members of a table, taken by their keys. -/
def ofMembers {σ : Type} (fields : List (TableField σ)) (blank : σ) (members : Members) :
    Option σ :=
  if !members.all (isAdmitted fields) then none
  else fields.foldlM (fun made field =>
    match members.find? field.name with
    | some node => field.decode made node
    | none => if field.required then none else some made) blank

/-- The members of a table, taken by their places. -/
def ofItems {σ : Type} : List (TableField σ) → σ → List Node → Option σ
  | [], made, _ => some made
  | fields, made, [] => if fields.any (·.required) then none else some made
  | field :: fields, made, node :: nodes =>
    (field.decode made node).bind fun made => ofItems fields made nodes

/-- A table with given members. -/
def record {σ : Type} (fields : List (TableField σ)) (blank : σ) : Decoder σ := fun node =>
  match members? node with
  | some members => ofMembers fields blank members
  | none => (items? node).bind (ofItems fields blank)

end Decode

open Decode

/-- The members of the crew. -/
def crewTable : List (TableField CrewSettings) := [
  .of "min_workers" false word64 fun n c => { c with minWorkers := n },
  .of "max_workers" false word64 fun n c => { c with maxWorkers := n },
  .of "idle_timeout_secs" false word64 fun n c => { c with idleSeconds := n },
  .of "thread_name_prefix" false text fun s c => { c with namePrefix := s }]

/-- The members of the flush interval. -/
def flushTable : List (TableField UInt64) := [
  .of "interval_ms" false word64 fun n _ => n]

/-- The members of a sink. -/
def sinkTable : List (TableField SinkSettings) := [
  .of "name" true text fun s sink => { sink with name := s },
  .of "sink_type" true (variant SinkForm.ofName?) fun form sink => { sink with form },
  .of "params" false (dictionary (fun key value params => params.insert key value) ∅ text)
    fun params sink => { sink with params }]

/-- Levels by class. -/
def levelsTable : Decoder Levels :=
  dictionary (fun key level levels => levels.insert key level) ∅ (variant Level.ofName?)

/-- The members of the levels of both kinds. -/
def categoryTable : List (TableField (Levels × Levels)) :=
  Kind.all.map fun kind => .of kind.name false levelsTable fun levels both =>
    match kind with
    | .runner => (levels, both.2)
    | .croner => (both.1, levels)

/-- The members of the settings. -/
def table : List (TableField Settings) := [
  .of "version" false (variant fun s => if s = version then some () else none) fun _ s => s,
  .of "pool" false (record crewTable {}) fun crew s => { s with crew },
  .of "flush" false (record flushTable ({} : Settings).flushMillis) fun n s =>
    { s with flushMillis := n },
  .of "sinks" false (sequence (record sinkTable { name := "", form := .journal })) fun sinks s =>
    { s with sinks },
  .of "categories" false (record categoryTable (∅, ∅)) fun both s =>
    { s with runnerLevels := both.1, cronerLevels := both.2 }]

/-- The settings that a whole text stands for. -/
def ofToml? (s : String) : Option Settings :=
  (document? s).bind (ofMembers table {})

end TaskLedger.Settings
