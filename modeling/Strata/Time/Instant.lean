/-!
# Points in time

A point in time is a second of the proleptic Gregorian calendar in UTC and a fraction of it. A
fraction of a billion nanoseconds or more is in the leap second that follows.

Days are counted from the first of March of the year 0, so that a leap day is the last of its year.
-/

namespace Strata

/-- A point in time: a day, a second of it, and nanoseconds. -/
structure Instant where
  day : Int
  second : Nat
  nano : Nat
  deriving DecidableEq, Repr

namespace Instant

/-- Whether a year has a leap day. -/
def isLeapYear (year : Int) : Bool := year % 4 = 0 && (year % 100 != 0 || year % 400 = 0)

/-- The length of a month. -/
def monthLength (year : Int) (month : Nat) : Nat :=
  if month = 2 then (if isLeapYear year then 29 else 28)
  else if month = 4 ∨ month = 6 ∨ month = 9 ∨ month = 11 then 30
  else 31

/-- The days before a month, counted from the first of March. -/
def daysBefore (monthFromMarch : Nat) : Nat := (153 * monthFromMarch + 2) / 5

/-- The number of a day of the calendar. -/
def dayNumber (year : Int) (month day : Nat) : Int :=
  let y := if month ≤ 2 then year - 1 else year
  365 * y + y / 4 - y / 100 + y / 400 + daysBefore ((month + 9) % 12) + (day - 1 : Int)

/-- The day of the calendar with a number: year, month and day. -/
def calendarDay (number : Int) : Int × Nat × Nat :=
  let era := number / 146097
  let dayOfEra := (number % 146097).toNat
  let yearOfEra := (dayOfEra - dayOfEra / 1460 + dayOfEra / 36524 - dayOfEra / 146096) / 365
  let dayOfYear := dayOfEra - (365 * yearOfEra + yearOfEra / 4 - yearOfEra / 100)
  let monthFromMarch := (5 * dayOfYear + 2) / 153
  let month := if monthFromMarch < 10 then monthFromMarch + 3 else monthFromMarch - 9
  let year : Int := yearOfEra + era * 400
  (if month ≤ 2 then year + 1 else year, month, dayOfYear - daysBefore monthFromMarch + 1)

/-- The first and the last year of the calendar. -/
def minYear : Int := -262143

/-- The last year of the calendar. -/
def maxYear : Int := 262142

/-- Whether a day lies in the calendar. -/
def inCalendar (day : Int) : Bool :=
  dayNumber minYear 1 1 ≤ day && day ≤ dayNumber maxYear 12 31

end Instant

end Strata
