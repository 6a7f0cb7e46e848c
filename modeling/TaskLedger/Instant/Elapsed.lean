import TaskLedger.Instant.Basic

/-!
# Time between instants

The difference of two instants counts 86400 seconds for every day between them.  A leap second is
counted only when the two times of day lie on different sides of it: after it when it is the start,
before it when it is the end.  Whole milliseconds are cut toward zero.
-/

namespace TaskLedger.Instant

/-- The leap second that the difference of two times of day has to count. -/
def leapBetween (start finish : Instant) : Int :=
  if start.second < finish.second then (if start.isLeap then 1 else 0)
  else if finish.second < start.second then (if finish.isLeap then -1 else 0)
  else 0

/-- Nanoseconds from one instant to another. -/
def elapsedNanos (start finish : Instant) : Int :=
  1000000000 * (86400 * (finish.day - start.day) + ((finish.second : Int) - start.second)
    + leapBetween start finish) + ((finish.nano : Int) - start.nano)

/-- Milliseconds from one instant to another, cut toward zero. -/
def elapsedMillis (start finish : Instant) : Int :=
  (elapsedNanos start finish).tdiv 1000000

/-- Without leap seconds the difference is the difference of the two counts of nanoseconds. -/
theorem elapsedNanos_eq_sub {start finish : Instant} (hs : start.isLeap = false)
    (hf : finish.isLeap = false) :
    elapsedNanos start finish = finish.unixNanos - start.unixNanos := by
  have leap : leapBetween start finish = 0 := by simp [leapBetween, hs, hf]
  simp only [elapsedNanos, leap, unixNanos, unixSeconds]
  omega

end TaskLedger.Instant
