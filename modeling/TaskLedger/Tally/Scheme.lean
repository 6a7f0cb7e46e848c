import TaskLedger.Instant.Elapsed
import TaskLedger.Outcome.Record

/-!
# What is counted

A scheme lists, for one kind of records, the counters of a category in their order:

* `Scheme.counts`: each counts the records of which something holds;
* `Scheme.phases`: each adds up the time between two stages of the records that have reached both.

It also says which instant of a record is announced as the next run of its category.
-/

namespace TaskLedger

/-- A named counter of records, and which records are counted. -/
structure Count (ρ : Type) where
  name : String
  counts : ρ → Bool

/-- The time between two stages, and the name of the counter that adds the times up. -/
structure Phase (ρ : Type) where
  name : String
  start : ρ → Option Instant
  finish : ρ → Option Instant

/-- The milliseconds of a phase, if both of its ends are known; negative if they are the wrong way
round. -/
def Phase.millis {ρ : Type} (phase : Phase ρ) (r : ρ) : Option Int :=
  match phase.start r, phase.finish r with
  | some start, some finish => some (Instant.elapsedMillis start finish)
  | _, _ => none

/-- The counters of the categories of one kind, those of milliseconds behind the others, and the
next run that a record announces. -/
structure Scheme (ρ : Type) where
  counts : List (Count ρ)
  phases : List (Phase ρ)
  next : ρ → Option Instant

namespace Scheme

/-- The names of the counters in order. -/
def names {ρ : Type} (scheme : Scheme ρ) : List String :=
  scheme.counts.map Count.name ++ scheme.phases.map Phase.name

theorem count_mem_names {ρ : Type} {scheme : Scheme ρ} {count : Count ρ}
    (h : count ∈ scheme.counts) : count.name ∈ scheme.names :=
  List.mem_append_left _ (List.mem_map_of_mem h)

/-- The counters of tasks. -/
def runner : Scheme Runner.Outcome where
  counts := [
    ⟨"numAll", fun _ => true⟩,
    ⟨"numFail", fun r => r.state.isFailure⟩,
    ⟨"numFailProgram", fun r => r.state == .programError⟩,
    ⟨"numFailConfig", fun r => r.state == .configError⟩,
    ⟨"numFailPartner", fun r => r.state == .partnerError⟩,
    ⟨"numFailData", fun r => r.state == .dataError⟩]
  phases := [
    ⟨"timeAll", (·.queuedAt), (·.finishedAt)⟩,
    ⟨"timeQueue", (·.queuedAt), (·.consumedAt)⟩,
    ⟨"timeWait", (·.consumedAt), (·.runAt)⟩,
    ⟨"timeRun", (·.runAt), (·.finishedAt)⟩]
  next := fun _ => none

/-- The counters of scheduled jobs. -/
def croner : Scheme Croner.Outcome where
  counts := [
    ⟨"numAll", fun _ => true⟩,
    ⟨"numFail", fun r => r.state.isFailure⟩,
    ⟨"numFailProgram", fun r => r.state == .programError⟩,
    ⟨"numFailPartner", fun r => r.state == .partnerError⟩,
    ⟨"numFailData", fun r => r.state == .dataError⟩]
  phases := [
    ⟨"timeAll", (·.scheduledAt), (·.finishedAt)⟩,
    ⟨"timeWait", (·.scheduledAt), (·.runAt)⟩,
    ⟨"timeRun", (·.runAt), (·.finishedAt)⟩]
  next := (·.nextAt)

/-- The counters of a kind. -/
def of : (k : Kind) → Scheme (Record k)
  | .runner => runner
  | .croner => croner

/-- No two counters of a kind share a name. -/
theorem nodup_names (k : Kind) : (of k).names.Nodup := by
  cases k <;> decide

end Scheme

end TaskLedger
