import TaskLedger.Signed64
import TaskLedger.Tally.Scheme

/-!
# The counters of one category

A bucket holds the values of the counters of one category in the order of their scheme.  A record
raises each counter of records that counts it by one and adds its times to the counters of
milliseconds, which stay inside 64 bits.  The next run is the one that the last record announced,
also when it announced none.
-/

namespace TaskLedger

/-- The values of the counters of a category, those of records and those of milliseconds, and the
next run of the category. -/
structure Bucket where
  counts : List Int
  times : List Int
  next : Option Instant
  deriving DecidableEq

namespace Bucket

variable {ρ : Type}

/-- The counters before the first record. -/
def zero (scheme : Scheme ρ) : Bucket where
  counts := scheme.counts.map fun _ => 0
  times := scheme.phases.map fun _ => 0
  next := none

/-- A sum of milliseconds with the time of one more record. -/
def addMillis (sum : Int) : Option Int → Int
  | some millis => Signed64.saturate (sum + millis)
  | none => sum

/-- The counters after one more record. -/
def add (scheme : Scheme ρ) (b : Bucket) (r : ρ) : Bucket where
  counts := List.zipWith (fun count n => if count.counts r then n + 1 else n) scheme.counts b.counts
  times := List.zipWith (fun phase sum => addMillis sum (phase.millis r)) scheme.phases b.times
  next := scheme.next r

/-- The values of all counters in order. -/
def values (b : Bucket) : List Int :=
  b.counts ++ b.times

end Bucket

end TaskLedger
