import TaskLedger.Json.Skip

/-!
# Lists, objects and variants

The readers of values with parts, made from readers of the parts:

* `sequence` reads a list of values of one type;
* `dictionary` reads an object whose keys are free, the last value of a key counting;
* `record` reads a value with named fields, from an object or from a list in the order of the
  fields;
* `variant` reads one of a set of names, alone or as the key of an object that holds `null`;
* `document` reads a whole text.

A record is read into a blank one, field by field.  A field may be required, required in a list
only, or free to be left out; one that is read twice is a mismatch.
-/

namespace TaskLedger.Json

variable {ε : Type}

/-- The next key of an object with its colon, `first` if none has been read, or `none` at its
end. -/
def memberKey (first : Bool) (cs : List Char) : Except (Fault ε) (Option String × List Char) :=
  match skipGap cs with
  | [] => .error .eof
  | '\x7d' :: r => .ok (none, r)
  | c :: r =>
    if first then
      if c = '"' then (Quoted.body r).map fun p => (some p.1, p.2) else .error .malformed
    else if c = ',' then
      match mark '"' r with
      | .ok r => (Quoted.body r).map fun p => (some p.1, p.2)
      | .error fault => .error fault
    else .error .malformed

/-- Whether a list goes on, `first` if no element has been read: then its next element follows. -/
def elementFollows (first : Bool) (cs : List Char) : Except (Fault ε) (Bool × List Char) :=
  match skipGap cs with
  | [] => .error .eof
  | ']' :: r => .ok (false, r)
  | c :: r =>
    if first then .ok (true, c :: r)
    else if c = ',' then
      match skipGap r with
      | [] => .error .eof
      | ']' :: _ => .error .malformed
      | r => .ok (true, r)
    else .error .malformed

/-- The elements of a list up to its end, `seen` in front of them in reverse. -/
def elements {α : Type} (read : Reader ε α) : Nat → List α → Reader ε (List α)
  | 0, _, _ => .error .eof
  | fuel + 1, seen, cs =>
    match elementFollows seen.isEmpty cs with
    | .error fault => .error fault
    | .ok (false, rest) => .ok (seen.reverse, rest)
    | .ok (true, rest) =>
      match read rest with
      | .error fault => .error fault
      | .ok (a, rest) => elements read fuel (a :: seen) rest

/-- A list of values. -/
def sequence {α : Type} (read : Reader ε α) : Reader ε (List α) := fun cs =>
  match skipGap cs with
  | '[' :: r => elements read (r.length + 1) [] r
  | r => .error (rejected r)

/-- The members of an object up to its end, `step` applied to what was made of those before. -/
def members {σ : Type} (step : String → σ → Reader ε σ) : Nat → Bool → σ → Reader ε σ
  | 0, _, _, _ => .error .eof
  | fuel + 1, first, made, cs =>
    match memberKey first cs with
    | .error fault => .error fault
    | .ok (none, rest) => .ok (made, rest)
    | .ok (some key, rest) =>
      match step key made rest with
      | .error fault => .error fault
      | .ok (made, rest) => members step fuel false made rest

/-- An object with free keys, put together by `insert`. -/
def dictionary {σ α : Type} (insert : String → α → σ → σ) (empty : σ) (read : Reader ε α) :
    Reader ε σ := fun cs =>
  match skipGap cs with
  | '\x7b' :: r =>
    members (fun key made rest =>
      match mark ':' rest with
      | .error fault => .error fault
      | .ok rest => (read rest).map fun p => (insert key p.1 made, p.2)) (r.length + 1) true empty r
  | r => .error (rejected r)

/-- When a field has to be there: always, in a list while an object may leave it out, or never. -/
inductive Demand where
  | always
  | inList
  | never
  deriving DecidableEq

/-- A named field of a record of type `σ`: its key in an object, when it has to be there, and how it
is read into a record. -/
structure Field (ε σ : Type) where
  name : String
  demand : Demand
  read : σ → Reader ε σ

/-- A field that is read by `read` and stored by `set`. -/
def Field.of {σ α : Type} (name : String) (demand : Demand) (read : Reader ε α)
    (set : α → σ → σ) : Field ε σ where
  name
  demand
  read made cs := (read cs).map fun p => (set p.1 made, p.2)

/-- The fields of a record in the order of a list. -/
abbrev Fields (ε σ : Type) := List (Field ε σ)

namespace Fields

variable {σ : Type}

/-- Reads the value of one key of an object into a record, and notes the key. -/
def member (fields : Fields ε σ) (key : String) (made : List String × σ) :
    Reader ε (List String × σ) := fun cs =>
  match fields.find? (·.name == key) with
  | none =>
    match mark ':' cs with
    | .error fault => .error fault
    | .ok rest => (Skip.value rest).map fun rest => (made, rest)
  | some field =>
    if made.1.contains key then .error (.mismatch none)
    else match mark ':' cs with
      | .error fault => .error fault
      | .ok rest => (field.read made.2 rest).map fun p => ((key :: made.1, p.1), p.2)

/-- A record from the members of an object whose bracket has been read. -/
def ofObject (fields : Fields ε σ) (blank : σ) : Reader ε σ := fun cs =>
  match members fields.member (cs.length + 1) true ([], blank) cs with
  | .error fault => .error fault
  | .ok ((seen, made), rest) =>
    if fields.all fun field => field.demand != .always || seen.contains field.name then
      .ok (made, rest)
    else .error (.mismatch none)

/-- A record from the elements of a list whose bracket has been read. -/
def ofList (fields : Fields ε σ) (first : Bool) (made : σ) : Reader ε σ := fun cs =>
  match fields with
  | [] => (mark ']' cs).map fun rest => (made, rest)
  | field :: later =>
    match elementFollows first cs with
    | .error fault => .error fault
    | .ok (false, rest) =>
      if (field :: later).all (·.demand == .never) then .ok (made, rest)
      else .error (.mismatch none)
    | .ok (true, rest) =>
      match field.read made rest with
      | .error fault => .error fault
      | .ok (made, rest) => ofList later false made rest

end Fields

/-- A record with the given fields. -/
def record {σ : Type} (fields : Fields ε σ) (blank : σ) : Reader ε σ := fun cs =>
  match skipGap cs with
  | '\x7b' :: r => fields.ofObject blank r
  | '[' :: r => fields.ofList true blank r
  | r => .error (rejected r)

/-- One of the names that `find?` knows. -/
def variant {α : Type} (find? : String → Option α) : Reader ε α := fun cs =>
  let named : Reader ε α := refine text fun name =>
    match find? name with
    | some a => .ok a
    | none => .error none
  match skipGap cs with
  | [] => .error .eof
  | '"' :: r => named ('"' :: r)
  | '\x7b' :: r => do
    let (a, rest) ← named ('"' :: (← mark '"' r))
    let ((), rest) ← null (← mark ':' rest)
    return (a, ← mark '\x7d' rest)
  | _ :: _ => .error .malformed

/-- A whole text as one value, with nothing but a gap after it. -/
def document {α : Type} (read : Reader ε α) (s : String) : Except (Fault ε) α :=
  match read s.toList with
  | .error fault => .error fault
  | .ok (a, rest) => if (skipGap rest).isEmpty then .ok a else .error .malformed

end TaskLedger.Json
