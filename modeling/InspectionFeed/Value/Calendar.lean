/-
Dates and times of the Gregorian calendar, with the range a document may
use: years 1 to 9999, no leap second, microseconds, and offsets from UTC
in whole minutes.
-/

namespace InspectionFeed

/-- A day of the calendar. -/
structure Date where
  year : Nat
  month : Nat
  day : Nat
  deriving Repr, DecidableEq

structure TimeOfDay where
  hour : Nat
  minute : Nat
  second : Nat
  microsecond : Nat
  deriving Repr, DecidableEq

inductive UtcOffset
  /-- UTC itself, written with a letter. -/
  | zulu
  /-- Hours and minutes after UTC or, where the sign is a hyphen, before it. -/
  | shift (sign : Char) (hours minutes : Nat)
  deriving Repr, DecidableEq

/-- The year has a 29th of February. -/
def isLeapYear (year : Nat) : Bool :=
  year % 4 == 0 && (year % 100 != 0 || year % 400 == 0)

/-- The number of days of a month. -/
def daysInMonth (year month : Nat) : Nat :=
  if month == 2 then (if isLeapYear year then 29 else 28)
  else if month == 4 || month == 6 || month == 9 || month == 11 then 30
  else 31

/-- The day is in the calendar. -/
def Date.isValid (d : Date) : Bool :=
  1 ≤ d.year && d.year ≤ 9999 && 1 ≤ d.month && d.month ≤ 12 && 1 ≤ d.day &&
    d.day ≤ daysInMonth d.year d.month

/-- The time is on the clock. -/
def TimeOfDay.isValid (t : TimeOfDay) : Bool :=
  t.hour ≤ 23 && t.minute ≤ 59 && t.second ≤ 59

end InspectionFeed
