/-!
# The two kinds of records

A *runner* record tells how one execution of a task ended, a *croner* record how one firing of a
scheduled job ended.  Everything that the ledger keeps is kept once for either kind; `PerKind` is
such a pair.
-/

namespace TaskLedger

/-- The kinds of records: executions of tasks, and firings of scheduled jobs. -/
inductive Kind where
  | runner
  | croner
  deriving DecidableEq, Repr

namespace Kind

/-- The name of a kind in texts. -/
def name : Kind → String
  | runner => "runner"
  | croner => "croner"

/-- The kind with a given name. -/
def ofName? (s : String) : Option Kind :=
  if s = "runner" then some runner else if s = "croner" then some croner else none

/-- Both kinds in the order of their names' first use. -/
def all : List Kind := [runner, croner]

theorem ofName?_name (k : Kind) : ofName? k.name = some k := by
  cases k <;> decide

theorem mem_all (k : Kind) : k ∈ all := by
  cases k <;> decide

end Kind

/-- Something for either kind. -/
structure PerKind (α : Kind → Type) where
  runner : α .runner
  croner : α .croner

namespace PerKind

variable {α : Kind → Type}

/-- What belongs to a kind. -/
def get (p : PerKind α) : (k : Kind) → α k
  | .runner => p.runner
  | .croner => p.croner

/-- The pair with something else for one kind. -/
def set (p : PerKind α) : (k : Kind) → α k → PerKind α
  | .runner, a => { p with runner := a }
  | .croner, a => { p with croner := a }

@[simp] theorem get_set_self (p : PerKind α) (k : Kind) (a : α k) : (p.set k a).get k = a := by
  cases k <;> rfl

theorem get_set_of_ne (p : PerKind α) {j k : Kind} (h : j ≠ k) (a : α k) :
    (p.set k a).get j = p.get j := by
  cases j <;> cases k <;> simp_all [get, set]

end PerKind

end TaskLedger
