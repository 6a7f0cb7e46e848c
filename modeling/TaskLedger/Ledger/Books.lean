import TaskLedger.Outcome.Kind
import TaskLedger.Sink.Fault
import TaskLedger.Tally.Store

/-!
# Books

The books of a ledger are the stores that its counters are written to: one for either kind, or a
single one for both.  `StoreChoice.books` opens empty ones, if there is a store for either kind.
-/

namespace TaskLedger

/-- Why a ledger could not be set up: there is no store for a kind, or a sink could not be built. -/
inductive LedgerFault where
  | noStore (kind : Kind)
  | route (fault : RouteFault)
  deriving DecidableEq

/-- The text of a fault. -/
def LedgerFault.message : LedgerFault → String
  | noStore kind => "missing collaborator: " ++ kind.name ++ " metrics store"
  | route fault => "dispatcher error: " ++ fault.message

/-- The stores that counters are written to, one for either kind or one for both. -/
inductive Books where
  | separate (stores : PerKind fun _ => Store)
  | shared (store : Store)

namespace Books

/-- The store for a kind. -/
def of (b : Books) (k : Kind) : Store :=
  match b with
  | separate stores => stores.get k
  | shared store => store

/-- Changes the store for a kind. -/
def update (b : Books) (k : Kind) (f : Store → Store) : Books :=
  match b with
  | separate stores => separate (stores.set k (f (stores.get k)))
  | shared store => shared (f store)

@[simp] theorem of_update_self (b : Books) (k : Kind) (f : Store → Store) :
    (b.update k f).of k = f (b.of k) := by
  cases b <;> simp [of, update]

theorem of_update_separate {stores : PerKind fun _ => Store} {j k : Kind} (h : j ≠ k)
    (f : Store → Store) : ((separate stores).update k f).of j = (separate stores).of j :=
  PerKind.get_set_of_ne stores h _

end Books

/-- The stores that a ledger is given: one for either kind, one for both, one for a single kind, or
none at all. -/
inductive StoreChoice where
  | separate
  | shared
  | only (kind : Kind)
  | nothing
  deriving DecidableEq, Repr

namespace StoreChoice

/-- Whether there is a store for a kind. -/
def covers (choice : StoreChoice) (k : Kind) : Bool :=
  match choice with
  | separate | shared => true
  | only kind => kind = k
  | nothing => false

/-- Empty books, or the first kind without a store. -/
def books (choice : StoreChoice) : Except LedgerFault Books :=
  match Kind.all.find? fun k => !choice.covers k with
  | some k => .error (.noStore k)
  | none => .ok (if choice = shared then .shared .empty else .separate ⟨.empty, .empty⟩)

end StoreChoice

end TaskLedger
