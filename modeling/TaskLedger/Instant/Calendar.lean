/-!
# Calendar dates

Days are counted from 1 January 1970 in the Gregorian calendar, extended without limit in both
directions.  A count of days and a date are two names of one day:

* `Date.toDay` counts the days up to a date;
* `Date.ofDay` names the day with a given count.

Both work on a year that starts in March, so that the leap day is its last day, and on eras of 400
such years, which all have 146097 days.  A triple of year, month and day is a date exactly when the
day it leads to has that name (`Date.isReal`).
-/

namespace TaskLedger

/-- A year, where a year 0 stands before year 1, a month from 1 and a day of the month from 1. -/
structure Date where
  year : Int
  month : Nat
  day : Nat
  deriving DecidableEq

namespace Date

/-- Days in an era of 400 years. -/
def daysPerEra : Int := 146097

/-- Days from 1 March of year 0 up to 1 January 1970. -/
def epochShift : Int := 719468

/-- Days of a year from March before its month number `m`, counted from 0 for March. -/
def daysBeforeMonth (m : Int) : Int :=
  (153 * m + 2) / 5

/-- Days of an era before its year number `y`. -/
def daysBeforeYear (y : Int) : Int :=
  365 * y + y / 4 - y / 100

/-- The year of an era that holds the day number `d` of the era. -/
def yearOfEra (d : Int) : Int :=
  (d - d / 1460 + d / 36524 - d / 146096) / 365

/-- How many days after 1 January 1970 a date is. -/
def toDay (date : Date) : Int :=
  let fromMarch : Int := if date.month ≤ 2 then date.month + 9 else date.month - 3
  let year := if date.month ≤ 2 then date.year - 1 else date.year
  daysPerEra * (year / 400) + daysBeforeYear (year % 400) + daysBeforeMonth fromMarch + date.day - 1
    - epochShift

/-- The date that is `n` days after 1 January 1970. -/
def ofDay (n : Int) : Date :=
  let era := (n + epochShift) / daysPerEra
  let dayOfEra := (n + epochShift) % daysPerEra
  let year := yearOfEra dayOfEra
  let dayOfYear := dayOfEra - daysBeforeYear year
  let fromMarch := (5 * dayOfYear + 2) / 153
  { year := 400 * era + year + (if fromMarch < 10 then 0 else 1)
    month := (if fromMarch < 10 then fromMarch + 3 else fromMarch - 9).toNat
    day := (dayOfYear - daysBeforeMonth fromMarch + 1).toNat }

/-- Whether a year, a month and a day name a day of the calendar. -/
def isReal (date : Date) : Bool :=
  ofDay date.toDay == date

example : ofDay 0 = ⟨1970, 1, 1⟩ := by decide
example : ofDay (-1) = ⟨1969, 12, 31⟩ := by decide
example : toDay ⟨2000, 2, 29⟩ = 11016 := by decide
example : isReal ⟨1900, 2, 29⟩ = false := by decide

end Date

end TaskLedger
