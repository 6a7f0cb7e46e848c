import TaskLedger.Instant.Calendar

/-!
# Instants

An instant is a nanosecond of Universal Time: a day, a second of that day and a fraction of that
second.  A second that ends a minute may last two seconds, so that a leap second is a fraction of
`10 ^ 9` nanoseconds or more.  The days run from 1 January of the year -262143 to 31 December of the
year 262142.

* `Instant.make?` forms an instant if its parts are in range;
* `Instant.unixSeconds` is the number of seconds since 1 January 1970, rounded down;
* `Instant.ofUnixNanos?` and `Instant.unixNanos` count nanoseconds without leap seconds.
-/

namespace TaskLedger

/-- The first day that has instants. -/
def Instant.firstDay : Int := Date.toDay ⟨-262143, 1, 1⟩

/-- The last day that has instants. -/
def Instant.lastDay : Int := Date.toDay ⟨262142, 12, 31⟩

/-- A nanosecond of Universal Time: days since 1 January 1970, seconds since midnight and
nanoseconds since the second began.  Only a second that ends a minute may be followed by a leap
second, which are its nanoseconds from a thousand million on. -/
structure Instant where
  day : Int
  second : Nat
  nano : Nat
  day_mem : Instant.firstDay ≤ day ∧ day ≤ Instant.lastDay
  second_lt : second < 86400
  nano_lt : nano < if second % 60 = 59 then 2000000000 else 1000000000
  deriving DecidableEq

namespace Instant

/-- The instant with the given parts, if they are in range. -/
def make? (day : Int) (second nano : Nat) : Option Instant :=
  if h : (firstDay ≤ day ∧ day ≤ lastDay) ∧ second < 86400 ∧
      nano < if second % 60 = 59 then 2000000000 else 1000000000 then
    some ⟨day, second, nano, h.1, h.2.1, h.2.2⟩
  else none

theorem make?_parts (t : Instant) : make? t.day t.second t.nano = some t := by
  rw [make?, dif_pos ⟨t.day_mem, t.second_lt, t.nano_lt⟩]

/-- Midnight at the start of 1 January 1970. -/
def epoch : Instant :=
  ⟨0, 0, 0, by decide, by decide, by decide⟩

instance : Inhabited Instant := ⟨epoch⟩

/-- Whether the instant lies in a leap second. -/
def isLeap (t : Instant) : Bool :=
  1000000000 ≤ t.nano

/-- The calendar date of an instant. -/
def date (t : Instant) : Date :=
  Date.ofDay t.day

/-- Seconds since 1 January 1970, rounded down; a leap second counts as the second before it. -/
def unixSeconds (t : Instant) : Int :=
  86400 * t.day + t.second

/-- Nanoseconds since 1 January 1970, leap seconds before the instant's own not counted. -/
def unixNanos (t : Instant) : Int :=
  1000000000 * t.unixSeconds + t.nano

/-- The instant a number of nanoseconds after 1 January 1970, if its day is in range. -/
def ofUnixNanos? (n : Int) : Option Instant :=
  let seconds := n / 1000000000
  make? (seconds / 86400) (seconds % 86400).toNat (n % 1000000000).toNat

end Instant

end TaskLedger
