import Mathlib
import TaskLedger.Json.Tree
import TaskLedger.Proofs.Json.Quoted

/-!
# The texts of a tree

A value has many texts: gaps may stand between its parts.  `Tree.Spelled` relates a value to all of
them, and both ways of writing are among them (`Tree.spelled_compact`, `Tree.spelled_pretty`).

A text without gaps holds no line break (`Tree.newLine_not_mem_compact`), because texts inside it
have theirs escaped.
-/

namespace TaskLedger.Json

open TaskLedger.Text

/-- What may stand between the parts of a text. -/
def Gap (cs : List Char) : Prop :=
  ∀ c ∈ cs, isGap c = true

theorem gap_nil : Gap [] := nofun

theorem gap_space : Gap [' '] := by
  simp [Gap, isGap]

/-- What stands in front of an element in brackets: a comma, unless it is the first one. -/
inductive Separator : Bool → List Char → Prop
  | first {gap : List Char} (h : Gap gap) : Separator true gap
  | comma {before after : List Char} (hb : Gap before) (ha : Gap after) :
      Separator false (before ++ ',' :: after)

namespace Tree

mutual

/-- The texts of a value. -/
inductive Spelled : Tree → List Char → Prop
  | null : Spelled .null ['n', 'u', 'l', 'l']
  | natural (n : Nat) : Spelled (.natural n) (Decimal.digits n)
  | text (s : String) : Spelled (.text s) (Quoted.chars s.toList)
  | boolean (b : Bool) :
      Spelled (.boolean b) (if b then ['t', 'r', 'u', 'e'] else ['f', 'a', 'l', 's', 'e'])
  | list {items : List Tree} {cs : List Char} (h : SpelledItems true items cs) :
      Spelled (.list items) ('[' :: cs)
  | object {members : List (String × Tree)} {cs : List Char} (h : SpelledMembers true members cs) :
      Spelled (.object members) ('\x7b' :: cs)

/-- The texts of the items of a list with its end, `first` if none has been written. -/
inductive SpelledItems : Bool → List Tree → List Char → Prop
  | close {first : Bool} {gap : List Char} (h : Gap gap) : SpelledItems first [] (gap ++ [']'])
  | item {first : Bool} {sep cs r : List Char} {item : Tree} {items : List Tree}
      (hs : Separator first sep) (hc : Spelled item cs) (hr : SpelledItems false items r) :
      SpelledItems first (item :: items) (sep ++ cs ++ r)

/-- The texts of the members of an object with its end, `first` if none has been written. -/
inductive SpelledMembers : Bool → List (String × Tree) → List Char → Prop
  | close {first : Bool} {gap : List Char} (h : Gap gap) : SpelledMembers first [] (gap ++ ['\x7d'])
  | member {first : Bool} {sep before after cs r : List Char} (key : String) {value : Tree}
      {members : List (String × Tree)} (hs : Separator first sep) (hb : Gap before)
      (ha : Gap after) (hc : Spelled value cs) (hr : SpelledMembers false members r) :
      SpelledMembers first ((key, value) :: members)
        (sep ++ Quoted.chars key.toList ++ before ++ ':' :: after ++ cs ++ r)

end

/-! ### Both ways of writing -/

theorem separator_compact (first : Bool) : Separator first (if first then [] else [',']) := by
  cases first with
  | true => exact .first gap_nil
  | false => exact .comma gap_nil gap_nil

mutual

/-- A value without gaps. -/
theorem spelled_compact : ∀ t : Tree, Spelled t t.compact
  | null => .null
  | natural n => .natural n
  | text s => .text s
  | boolean b => .boolean b
  | list items => .list (spelledItems_compact true items)
  | object members => .object (spelledMembers_compact true members)

theorem spelledItems_compact (first : Bool) :
    ∀ items : List Tree, SpelledItems first items (compactItems first items)
  | [] => .close gap_nil
  | item :: items =>
    .item (separator_compact first) (spelled_compact item) (spelledItems_compact false items)

theorem spelledMembers_compact (first : Bool) :
    ∀ members : List (String × Tree), SpelledMembers first members (compactMembers first members)
  | [] => .close gap_nil
  | (key, value) :: members => by
    have all := SpelledMembers.member key (separator_compact first) gap_nil gap_nil
      (spelled_compact value) (spelledMembers_compact false members)
    simpa [compactMembers] using all

end

theorem gap_newLine (depth : Nat) : Gap (newLine depth) := by
  intro c mem
  rcases List.mem_cons.1 mem with rfl | space
  · rfl
  · rw [List.eq_of_mem_replicate space]
    rfl

theorem separator_newLine (depth : Nat) : Separator false (',' :: newLine depth) :=
  .comma gap_nil (gap_newLine depth)

mutual

/-- A value over several lines. -/
theorem spelled_pretty (depth : Nat) : ∀ t : Tree, Spelled t (t.pretty depth)
  | null => .null
  | natural n => .natural n
  | text s => .text s
  | boolean b => .boolean b
  | list [] => .list (.close gap_nil)
  | list (item :: items) =>
    .list (.item (.first (gap_newLine (depth + 1))) (spelled_pretty (depth + 1) item)
      (spelledItems_pretty depth items))
  | object [] => .object (.close gap_nil)
  | object ((key, value) :: members) => by
    have all := SpelledMembers.member key (.first (gap_newLine (depth + 1))) gap_nil
      gap_space (spelled_pretty (depth + 1) value)
      (spelledMembers_pretty depth members)
    simpa [pretty] using Spelled.object all

theorem spelledItems_pretty (depth : Nat) :
    ∀ items : List Tree, SpelledItems false items (prettyItems depth items)
  | [] => .close (gap_newLine depth)
  | item :: items =>
    .item (separator_newLine (depth + 1)) (spelled_pretty (depth + 1) item)
      (spelledItems_pretty depth items)

theorem spelledMembers_pretty (depth : Nat) :
    ∀ members : List (String × Tree), SpelledMembers false members (prettyMembers depth members)
  | [] => .close (gap_newLine depth)
  | (key, value) :: members => by
    have all := SpelledMembers.member key (separator_newLine (depth + 1)) gap_nil
      gap_space (spelled_pretty (depth + 1) value)
      (spelledMembers_pretty depth members)
    simpa [prettyMembers] using all

end

/-! ### No line breaks -/

theorem newLine_not_mem_digits (n : Nat) : '\n' ∉ Decimal.digits n :=
  fun mem => absurd (Decimal.isDigit_of_mem_digits mem) (by decide)

mutual

theorem newLine_not_mem_compact : ∀ t : Tree, '\n' ∉ t.compact
  | null => by decide
  | natural n => newLine_not_mem_digits n
  | text s => Quoted.newLine_not_mem s.toList
  | boolean true => by decide
  | boolean false => by decide
  | list items => by
    simpa [compact] using newLine_not_mem_compactItems true items
  | object members => by
    simpa [compact] using newLine_not_mem_compactMembers true members

theorem newLine_not_mem_compactItems (first : Bool) :
    ∀ items : List Tree, '\n' ∉ compactItems first items
  | [] => by simp [compactItems]
  | item :: items => by
    have here := newLine_not_mem_compact item
    have later := newLine_not_mem_compactItems false items
    cases first <;> simp [compactItems, here, later]

theorem newLine_not_mem_compactMembers (first : Bool) :
    ∀ members : List (String × Tree), '\n' ∉ compactMembers first members
  | [] => by simp [compactMembers]
  | (key, value) :: members => by
    have name := Quoted.newLine_not_mem key.toList
    have here := newLine_not_mem_compact value
    have later := newLine_not_mem_compactMembers false members
    cases first <;> simp [compactMembers, name, here, later]

end

end Tree

end TaskLedger.Json
