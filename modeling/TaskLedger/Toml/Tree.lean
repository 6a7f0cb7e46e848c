/-!
# Trees of tables

A TOML document describes one table.  Its statements may come in several forms, and a table can be
extended later only by the forms that its `Standing` allows:

* a header opens a table, once;
* a longer header implies the tables on its way, which may still be opened;
* a dotted key makes the tables on its way, which only other dotted keys of the same table extend;
* an inline table is complete when it is written.

`descend` walks down a path and changes the table at its end; `assign`, `openTable` and `openItem`
are the three statements.  All of them answer `none` when the document is at fault.
-/

namespace TaskLedger.Toml

/-- A value without parts: a text, a whole number, a date or a time or both in its usual form, some
other value, which is a truth value or a number with a fraction or an exponent, or a number that is
beyond every range. -/
inductive Scalar where
  | text (s : String)
  | integer (i : Int)
  | moment (s : String)
  | other
  | beyond
  deriving DecidableEq

/-- How a table came about: on the way of a header, on the way of a dotted key, by its own header,
or in braces. -/
inductive Standing where
  | implied
  | dotted
  | opened
  | inline
  deriving DecidableEq

/-- A value in a document: one without parts, a list in brackets, a table with its members in order,
or a list of tables with a header each, every one given by its members. -/
inductive Node where
  | scalar (value : Scalar)
  | list (items : List Node)
  | table (standing : Standing) (members : List (String × Node))
  | tables (items : List (List (String × Node)))

mutual

/-- Whether no number in a value is out of range. -/
def Node.isInRange : Node → Bool
  | .scalar value => value != .beyond
  | .list items => itemsInRange items
  | .table _ members => membersInRange members
  | .tables items => tablesInRange items

/-- Whether no number in a list is out of range. -/
def itemsInRange : List Node → Bool
  | [] => true
  | node :: nodes => node.isInRange && itemsInRange nodes

/-- Whether no number in the members of a table is out of range. -/
def membersInRange : List (String × Node) → Bool
  | [] => true
  | (_, node) :: members => node.isInRange && membersInRange members

/-- Whether no number in a list of tables is out of range. -/
def tablesInRange : List (List (String × Node)) → Bool
  | [] => true
  | members :: items => membersInRange members && tablesInRange items

end

/-- The members of a table. -/
abbrev Members := List (String × Node)

namespace Members

/-- The member with a given key. -/
def find? (members : Members) (key : String) : Option Node :=
  members.lookup key

/-- Replaces the member with a given key. -/
def replace (members : Members) (key : String) (node : Node) : Members :=
  members.map fun member => if member.1 = key then (key, node) else member

/-- Changes the last of a list of tables. -/
def changeLast (change : Members → Option Members) : List Members → Option (List Members)
  | [] => none
  | [last] => (change last).map fun last => [last]
  | item :: items => (changeLast change items).map (item :: ·)

/-- Walks from the members of a table down a path and changes the table at its end, of which the
standing is told.  Tables that are not there are made, by a dotted key or by a header. -/
def descend (byDottedKey : Bool) (change : Standing → Members → Option Members) :
    List String → Standing → Members → Option Members
  | [], standing, members => change standing members
  | key :: path, _, members =>
    match members.find? key with
    | none =>
      let standing := if byDottedKey then .dotted else .implied
      (descend byDottedKey change path standing []).map fun inner =>
        members ++ [(key, .table standing inner)]
    | some (.table standing inner) =>
      if standing = .inline ∨ (byDottedKey = true ∧ standing = .opened) then none
      else (descend byDottedKey change path standing inner).map fun inner =>
        members.replace key (.table standing inner)
    | some (.tables items) =>
      (changeLast (descend byDottedKey change path .opened) items).map fun items =>
        members.replace key (.tables items)
    | some (.scalar _) => none
    | some (.list _) => none

/-- Gives a value to the last key of a path below a table with the given members.  Every table on
the way has to be one that dotted keys made. -/
def assign (members : Members) (path : List String) (key : String) (node : Node) : Option Members :=
  let dotted := !path.isEmpty
  descend dotted (fun standing inner =>
    if dotted ∧ standing ≠ .dotted then none
    else if (inner.find? key).isSome then none
    else some (inner ++ [(key, node)])) path .opened members

/-- Opens a table by its header. -/
def openTable (members : Members) (path : List String) (key : String) : Option Members :=
  descend false (fun _ inner =>
    match inner.find? key with
    | none => some (inner ++ [(key, .table .opened [])])
    | some (.table .implied found) => some (inner.replace key (.table .opened found))
    | some _ => none) path .opened members

/-- Opens one more table of a list of tables by its header. -/
def openItem (members : Members) (path : List String) (key : String) : Option Members :=
  descend false (fun _ inner =>
    match inner.find? key with
    | none => some (inner ++ [(key, .tables [[]])])
    | some (.tables items) => some (inner.replace key (.tables (items ++ [[]])))
    | some _ => none) path .opened members

end Members

end TaskLedger.Toml
