import TaskLedger.Text.Decimal

/-!
# Buffers

A buffer keeps what was appended until all of it is detached at once.

* `Buffer.append` puts one item behind the others;
* `Buffer.detach` takes out everything and leaves an empty buffer, or does nothing to an empty one.

`Buffer.toList` shows the items in order; the lemmas say what either operation does to it.
-/

namespace TaskLedger

/-- Items that wait to be detached, in the order in which they were appended. -/
structure Buffer (α : Type) where
  items : Array α

namespace Buffer

variable {α : Type}

/-- A buffer without items. -/
def empty : Buffer α := ⟨#[]⟩

/-- The items in order. -/
def toList (b : Buffer α) : List α := b.items.toList

/-- The number of items. -/
def size (b : Buffer α) : Nat := b.items.size

/-- Whether there is no item. -/
def isEmpty (b : Buffer α) : Bool := b.items.isEmpty

/-- One more item, behind the others. -/
def append (b : Buffer α) (a : α) : Buffer α := ⟨b.items.push a⟩

/-- All items, if there are any, and an empty buffer. -/
def detach (b : Buffer α) : Option (List α) × Buffer α :=
  if b.isEmpty then (none, b) else (some b.toList, empty)

/-- A description that shows the number of items. -/
def describe (b : Buffer α) : String :=
  "AppendBuffer \x7b len: " ++ Text.Decimal.text b.size ++ " \x7d"

@[simp] theorem toList_empty : (empty : Buffer α).toList = [] := rfl

@[simp] theorem toList_append (b : Buffer α) (a : α) : (b.append a).toList = b.toList ++ [a] := by
  simp [toList, append]

theorem size_eq_length (b : Buffer α) : b.size = b.toList.length := by
  simp [size, toList]

theorem isEmpty_iff (b : Buffer α) : b.isEmpty = true ↔ b.toList = [] := by
  simp [isEmpty, toList]

end Buffer

end TaskLedger
