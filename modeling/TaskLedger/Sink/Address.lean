import TaskLedger.Text.Decimal

/-!
# Socket addresses

An address is a host, given by its number, and a port.

* A host of version 4 is four decimal numbers below 256 joined by points.
* A host of version 6 is eight hexadecimal groups joined by colons, in brackets.  Two colons stand
  for one or more groups of zero, the last two groups may be written as a host of version 4, and a
  scope may follow after `%`.

`Address.ofText?` reads an address and `Address.text` writes its usual form, in which two colons
stand for the longest run of at least two groups of zero, the first one of equally long runs.
-/

namespace TaskLedger

open Text

/-- A host and a port.  A host of version 4 is given by its octets, one of version 6 by its groups,
with a scope. -/
inductive Address where
  | v4 (octets : List Nat) (port : Nat)
  | v6 (groups : List Nat) (scope port : Nat)
  deriving DecidableEq

namespace Address

/-- Whether the host has version 4. -/
def isV4 : Address → Bool
  | v4 .. => true
  | v6 .. => false

/-- The port. -/
def port : Address → Nat
  | v4 _ port => port
  | v6 _ _ port => port

/-- The given character at the head of a text, and what follows. -/
def mark? (c : Char) (cs : List Char) : Option (List Char) :=
  match cs with
  | d :: r => if d = c then some r else none
  | [] => none

/-- A decimal number below `bound` at the head of a text, leading zeros allowed. -/
def number? (bound : Nat) (cs : List Char) : Option (Nat × List Char) :=
  let (ds, r) := Decimal.digitsOf cs
  if ds.isEmpty || bound ≤ Decimal.value ds then none else some (Decimal.value ds, r)

/-- An octet in decimal digits, without leading zeros. -/
def octet? (cs : List Char) : Option (Nat × List Char) :=
  let (ds, _) := Decimal.digitsOf cs
  if ds.head? = some '0' ∧ ds.length ≠ 1 then none else number? 256 cs

/-- The four octets of a host of version 4. -/
def octets? (cs : List Char) : Option (List Nat × List Char) := do
  let (a, cs) ← octet? cs
  let (b, cs) ← octet? (← mark? '.' cs)
  let (c, cs) ← octet? (← mark? '.' cs)
  let (d, cs) ← octet? (← mark? '.' cs)
  some ([a, b, c, d], cs)

/-- A group of at most four hexadecimal digits. -/
def group? (cs : List Char) : Option (Nat × List Char) :=
  let ds := cs.takeWhile fun c => (Decimal.hexValue? c).isSome
  if ds.isEmpty || 4 < ds.length then none
  else (Decimal.hexNumber? ds).map fun n => (n, cs.drop ds.length)

/-- Four octets as two groups. -/
def pairUp : List Nat → List Nat
  | [a, b, c, d] => [256 * a + b, 256 * c + d]
  | octets => octets

/-- At most `limit` groups joined by colons, the first one without a colon in front only if `first`;
two of them may be four octets, which end the row.  It is told whether they did. -/
def groups : Nat → Bool → List Char → (List Nat × Bool) × List Char
  | 0, _, cs => (([], false), cs)
  | limit + 1, first, cs =>
    match if first then some cs else mark? ':' cs with
    | none => (([], false), cs)
    | some r =>
      match if 0 < limit then octets? r else none with
      | some (octets, r) => ((pairUp octets, true), r)
      | none =>
        match group? r with
        | none => (([], false), cs)
        | some (g, r) =>
          let ((later, ended), r) := groups limit false r
          ((g :: later, ended), r)

/-- The eight groups of a host of version 6. -/
def host6? (cs : List Char) : Option (List Nat × List Char) := do
  let ((head, ended), cs) := groups 8 true cs
  if head.length = 8 then some (head, cs)
  else if ended then none
  else
    let cs ← mark? ':' (← mark? ':' cs)
    let ((tail, _), cs) := groups (7 - head.length) true cs
    some (head ++ List.replicate (8 - head.length - tail.length) 0 ++ tail, cs)

/-- The scope of a host, zero if none is given. -/
def scope? (cs : List Char) : Option (Nat × List Char) :=
  match cs with
  | '%' :: r => number? UInt32.size r
  | r => some (0, r)

/-- A colon and a port that end a text. -/
def port? (cs : List Char) : Option Nat := do
  let (port, rest) ← number? UInt16.size (← mark? ':' cs)
  if rest.isEmpty then some port else none

/-- The address that a whole text stands for. -/
def ofText? (s : String) : Option Address :=
  match s.toList with
  | '[' :: r => do
    let (groups, r) ← host6? r
    let (scope, r) ← scope? r
    some (v6 groups scope (← port? (← mark? ']' r)))
  | cs => do
    let (octets, r) ← octets? cs
    some (v4 octets (← port? r))

/-- Numbers joined by a separator. -/
def joined (separator : String) (write : Nat → String) (ns : List Nat) : String :=
  separator.intercalate (ns.map write)

/-- How many groups of zero a list begins with. -/
def zeros (groups : List Nat) : Nat :=
  (groups.takeWhile (· = 0)).length

/-- Where the longest run of groups of zero begins, and its length; the first of equally long
ones. -/
def longestZeros : List Nat → Nat × Nat
  | [] => (0, 0)
  | g :: groups =>
    let here := zeros (g :: groups)
    let (start, size) := longestZeros groups
    if size ≤ here then (0, here) else (start + 1, size)

/-- A group in hexadecimal digits. -/
def groupText (g : Nat) : String :=
  String.ofList (Decimal.hexPadded 1 g)

/-- The four octets of a host of version 4. -/
def octetsText (octets : List Nat) : String :=
  joined "." Decimal.text octets

/-- The groups of a host of version 6. -/
def groupsText (groups : List Nat) : String :=
  match groups with
  | [0, 0, 0, 0, 0, 0xffff, high, low] =>
    "::ffff:" ++ octetsText [high / 256, high % 256, low / 256, low % 256]
  | _ =>
    let (start, size) := longestZeros groups
    if 1 < size then
      joined ":" groupText (groups.take start) ++ "::"
        ++ joined ":" groupText (groups.drop (start + size))
    else joined ":" groupText groups

/-- The usual form of an address. -/
def text : Address → String
  | v4 octets port => octetsText octets ++ ":" ++ Decimal.text port
  | v6 groups scope port =>
    "[" ++ groupsText groups ++ (if scope = 0 then "" else "%" ++ Decimal.text scope) ++ "]:"
      ++ Decimal.text port

end Address

end TaskLedger
