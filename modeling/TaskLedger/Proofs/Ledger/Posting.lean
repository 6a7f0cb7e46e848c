import Mathlib
import TaskLedger.Ledger.Basic

/-!
# What a flush does

A flush without records does nothing.  Otherwise it takes all records of its kind out of their
buffer.  If the store takes all their counters they are posted, and their batch is submitted.  If
not, the flush unwinds: what the store took stays there, and the records are spilled.

* `Ledger.cleared`, `Ledger.posted` and `Ledger.spilled`: a ledger after each of these steps;
* `Ledger.flushTo_cases` says all that a flush does, and `Ledger.flushTo_of_nil`,
  `Ledger.flushTo_of_accepts` and `Ledger.flushTo_of_refused` say it case by case;
* `Ledger.outgoing` and `Ledger.lost?`: the batch that a flush submits, and the records that it
  spills;
* `Ledger.flushBoth_of_unwound`, `Ledger.flushBoth_of_returned` and `Ledger.shutdown_eq`: a shutdown
  goes on as long as nothing unwinds.
-/

namespace TaskLedger

namespace Ledger

variable {σ : Type}

/-! ### Posting -/

/-- What is reported of some records, and of where their batch went. -/
def reportOf (l : Ledger σ) (place : Submission) (k : Kind) (records : List (Record k)) :
    FlushReport where
  kind := k
  records := records.length
  categories := (Aggregation.ofRecords records).size
  written := (Aggregation.ofRecords records).entries.length
  selected := (l.batch k records).size
  submission := (l.dispatcher.submitTo place (l.batch k records)).1

/-- The ledger after some records are posted. -/
def posted (l : Ledger σ) (place : Submission) (k : Kind) (records : List (Record k)) :
    Ledger σ :=
  { l with
    dispatcher := (l.dispatcher.submitTo place (l.batch k records)).2.1
    books := l.books.update k (Aggregation.ofRecords records).emit
    registry := l.registry.observeAll
      (announcements (Aggregation.ofRecords records) records.length ++
        (l.dispatcher.submitTo place (l.batch k records)).2.2) }

/-- The ledger after some records are spilled. -/
def spilled (l : Ledger σ) (k : Kind) (records : List (Record k)) : Ledger σ :=
  { l with books := l.books.update k (Aggregation.ofRecords records).emit }

/-- The ledger after the records of a kind are taken out. -/
def cleared (l : Ledger σ) (k : Kind) : Ledger σ :=
  { l with buffers := l.buffers.set k .empty }

variable {l : Ledger σ} {k : Kind} {records : List (Record k)} (place : Submission)

theorem postTo_of_accepts (all : l.accepts k records = true) :
    l.postTo place k records = (.report (l.reportOf place k records), l.posted place k records) :=
  if_pos all

theorem postTo_of_refused (refused : l.accepts k records = false) :
    l.postTo place k records = (.unwound, l.spilled k records) :=
  if_neg (Bool.eq_false_iff.1 refused)

/-- Whether records are posted or spilled, the store takes of their counters what it can. -/
theorem books_postTo (l : Ledger σ) (k : Kind) (records : List (Record k)) :
    (l.postTo place k records).2.books =
      l.books.update k (Aggregation.ofRecords records).emit := by
  cases taken : l.accepts k records with
  | true =>
    rw [postTo_of_accepts place taken]
    rfl
  | false =>
    rw [postTo_of_refused place taken]
    rfl

theorem buffers_postTo (l : Ledger σ) (k : Kind) (records : List (Record k)) :
    (l.postTo place k records).2.buffers = l.buffers := by
  cases taken : l.accepts k records with
  | true =>
    rw [postTo_of_accepts place taken]
    rfl
  | false =>
    rw [postTo_of_refused place taken]
    rfl

/-! ### Flushes -/

/-- The records that a flush spills, if it unwinds. -/
def lost? (l : Ledger σ) (k : Kind) : Option (List (Record k)) :=
  (l.detach k).1.filter fun records => !l.accepts k records

/-- Without records a flush does nothing. -/
theorem flushTo_of_nil (nothing : (l.buffers.get k).toList = []) :
    l.flushTo place k = (.nothing, l) := by
  have empty : (l.buffers.get k).isEmpty = true := (Buffer.isEmpty_iff _).2 nothing
  simp [flushTo, detach, Buffer.detach, empty]

/-- Otherwise it takes all records out and posts them. -/
theorem flushTo_of_ne (present : (l.buffers.get k).toList ≠ []) :
    l.flushTo place k = (l.cleared k).postTo place k (l.buffers.get k).toList := by
  rcases l.detach_cases k with ⟨nothing, -⟩ | ⟨-, took⟩
  · exact absurd nothing present
  · rw [flushTo, took]
    rfl

theorem flushTo_of_accepts (present : (l.buffers.get k).toList ≠ [])
    (all : l.accepts k (l.buffers.get k).toList = true) : l.flushTo place k =
      (.report ((l.cleared k).reportOf place k (l.buffers.get k).toList),
        (l.cleared k).posted place k (l.buffers.get k).toList) := by
  rw [flushTo_of_ne place present]
  exact postTo_of_accepts place all

theorem flushTo_of_refused (present : (l.buffers.get k).toList ≠ [])
    (refused : l.accepts k (l.buffers.get k).toList = false) : l.flushTo place k =
      (.unwound, (l.cleared k).spilled k (l.buffers.get k).toList) := by
  rw [flushTo_of_ne place present]
  exact postTo_of_refused place refused

theorem outgoing_of_nil (nothing : (l.buffers.get k).toList = []) : l.outgoing k = none := by
  rcases l.detach_cases k with ⟨-, absent⟩ | ⟨present, -⟩
  · rw [outgoing, absent, Option.filter_none, Option.map_none]
  · exact absurd nothing present

theorem outgoing_of_accepts (present : (l.buffers.get k).toList ≠ [])
    (all : l.accepts k (l.buffers.get k).toList = true) :
    l.outgoing k = some (l.batch k (l.buffers.get k).toList) := by
  rcases l.detach_cases k with ⟨nothing, -⟩ | ⟨-, took⟩
  · exact absurd nothing present
  · rw [outgoing, took, Option.filter_some, if_pos all, Option.map_some]

theorem outgoing_of_refused (present : (l.buffers.get k).toList ≠ [])
    (refused : l.accepts k (l.buffers.get k).toList = false) : l.outgoing k = none := by
  rcases l.detach_cases k with ⟨nothing, -⟩ | ⟨-, took⟩
  · exact absurd nothing present
  · rw [outgoing, took, Option.filter_some, if_neg (by simp [refused]), Option.map_none]

theorem lost?_of_nil (nothing : (l.buffers.get k).toList = []) : l.lost? k = none := by
  rcases l.detach_cases k with ⟨-, absent⟩ | ⟨present, -⟩
  · rw [lost?, absent, Option.filter_none]
  · exact absurd nothing present

theorem lost?_of_accepts (present : (l.buffers.get k).toList ≠ [])
    (all : l.accepts k (l.buffers.get k).toList = true) : l.lost? k = none := by
  rcases l.detach_cases k with ⟨nothing, -⟩ | ⟨-, took⟩
  · exact absurd nothing present
  · rw [lost?, took, Option.filter_some, if_neg (by simp [all])]

theorem lost?_of_refused (present : (l.buffers.get k).toList ≠ [])
    (refused : l.accepts k (l.buffers.get k).toList = false) :
    l.lost? k = some (l.buffers.get k).toList := by
  rcases l.detach_cases k with ⟨nothing, -⟩ | ⟨-, took⟩
  · exact absurd nothing present
  · rw [lost?, took, Option.filter_some, if_pos (by simp [refused])]

/-- **All that a flush does.**  There is nothing to flush; or everything is posted, and a batch is
submitted; or the flush unwinds, and everything is spilled. -/
theorem flushTo_cases (l : Ledger σ) (place : Submission) (k : Kind) :
    ((l.buffers.get k).toList = [] ∧ l.flushTo place k = (.nothing, l) ∧
      l.outgoing k = none ∧ l.lost? k = none) ∨
    ((l.buffers.get k).toList ≠ [] ∧ l.flushTo place k =
        (.report ((l.cleared k).reportOf place k (l.buffers.get k).toList),
          (l.cleared k).posted place k (l.buffers.get k).toList) ∧
      l.outgoing k = some (l.batch k (l.buffers.get k).toList) ∧ l.lost? k = none) ∨
    ((l.buffers.get k).toList ≠ [] ∧ l.flushTo place k =
        (.unwound, (l.cleared k).spilled k (l.buffers.get k).toList) ∧
      l.outgoing k = none ∧ l.lost? k = some (l.buffers.get k).toList) := by
  by_cases present : (l.buffers.get k).toList = []
  · exact .inl ⟨present, flushTo_of_nil place present, outgoing_of_nil present,
      lost?_of_nil present⟩
  · cases taken : l.accepts k (l.buffers.get k).toList with
    | true => exact .inr (.inl ⟨present, flushTo_of_accepts place present taken,
        outgoing_of_accepts present taken, lost?_of_accepts present taken⟩)
    | false => exact .inr (.inr ⟨present, flushTo_of_refused place present taken,
        outgoing_of_refused present taken, lost?_of_refused present taken⟩)

/-- A flush unwinds exactly if it spills records. -/
theorem flushTo_unwinds_iff (l : Ledger σ) (place : Submission) (k : Kind) :
    (l.flushTo place k).1.unwinds = (l.lost? k).isSome := by
  rcases l.flushTo_cases place k with ⟨-, flushed, -, lost⟩ | ⟨-, flushed, -, lost⟩ |
    ⟨-, flushed, -, lost⟩
  all_goals
    rw [flushed, lost]
    rfl

/-- The batch of a kind depends on what is buffered, on the store, and on the level of the kind. -/
theorem outgoing_congr {τ : Type} {m : Ledger τ} (buffer_eq : l.buffers.get k = m.buffers.get k)
    (store_eq : l.books.of k = m.books.of k) (levels_eq : l.levels.get k = m.levels.get k) :
    l.outgoing k = m.outgoing k := by
  have same : l.batch k = m.batch k := by
    funext records
    rw [batch, batch, levels_eq]
  have taken : l.accepts k = m.accepts k := by
    funext records
    rw [accepts, accepts, store_eq]
  rw [outgoing, outgoing, detach, detach, buffer_eq, same, taken]

/-- Whatever else happens in a flush, its kind has no records after it. -/
theorem buffer_flushTo_self : ((l.flushTo place k).2.buffers.get k).toList = [] := by
  by_cases nothing : (l.buffers.get k).toList = []
  · rw [flushTo_of_nil place nothing, nothing]
  · rw [flushTo_of_ne place nothing, buffers_postTo]
    simp [cleared]

theorem buffer_flushTo_of_ne {j : Kind} (h : j ≠ k) :
    (l.flushTo place k).2.buffers.get j = l.buffers.get j := by
  by_cases nothing : (l.buffers.get k).toList = []
  · rw [flushTo_of_nil place nothing]
  · rw [flushTo_of_ne place nothing, buffers_postTo]
    exact PerKind.get_set_of_ne _ h _

/-! ### Shutdowns -/

variable (haste : Bool)

/-- If the first flush of a shutdown unwinds, there is no second one. -/
theorem flushBoth_of_unwound (unwinds : (l.flush .runner).1.unwinds = true) :
    l.flushBoth haste = ([(l.flush .runner).1], (l.flush .runner).2) :=
  if_pos unwinds

theorem flushBoth_of_returned (returns : (l.flush .runner).1.unwinds = false) :
    l.flushBoth haste =
      ([(l.flush .runner).1, ((l.flush .runner).2.flushTo (l.secondPlace haste) .croner).1],
        ((l.flush .runner).2.flushTo (l.secondPlace haste) .croner).2) :=
  if_neg (Bool.eq_false_iff.1 returns)

/-- A shutdown answers and closes the crew unless a flush unwinds. -/
theorem shutdown_eq (l : Ledger σ) : l.shutdown haste =
    if (l.flushBoth haste).1.any FlushAnswer.unwinds then (none, (l.flushBoth haste).2)
    else (some (l.flushBoth haste).2.isDone, (l.flushBoth haste).2.close) := rfl

end Ledger

end TaskLedger
