/-!
# Dates of the Gregorian calendar

Dates are kept as year, month and day, with the calendar extended to all
years.  The year before 1 is 0, and earlier years are negative.  The day number
counts days from 1970-01-01.
-/

namespace WorkloadPolicy
namespace Calendar

/-- A calendar date. -/
structure Date where
  year : Int
  month : Nat
  day : Nat
  deriving DecidableEq, Repr

/-- Leap years have a 29 February. -/
def isLeap (year : Int) : Bool :=
  year % 4 == 0 && (year % 100 != 0 || year % 400 == 0)

/-- The length of a month. -/
def daysInMonth (year : Int) (month : Nat) : Nat :=
  if month = 2 then
    if isLeap year then 29 else 28
  else if month = 4 ∨ month = 6 ∨ month = 9 ∨ month = 11 then
    30
  else
    31

namespace Date

/-- Whether the month and the day exist. -/
def isValid (date : Date) : Bool :=
  1 ≤ date.month && date.month ≤ 12 &&
    1 ≤ date.day && date.day ≤ daysInMonth date.year date.month

/-- Whether the year is one of those that a date can have. -/
def inRange (date : Date) : Bool :=
  -262143 ≤ date.year && date.year ≤ 262142

/-- The day after a date. -/
def next (date : Date) : Date :=
  if date.day < daysInMonth date.year date.month then
    { date with day := date.day + 1 }
  else if date.month < 12 then
    ⟨date.year, date.month + 1, 1⟩
  else
    ⟨date.year + 1, 1, 1⟩

/-- The day before a date. -/
def previous (date : Date) : Date :=
  if 1 < date.day then
    { date with day := date.day - 1 }
  else if 1 < date.month then
    ⟨date.year, date.month - 1, daysInMonth date.year (date.month - 1)⟩
  else
    ⟨date.year - 1, 12, 31⟩

/-- The days of the months of a year before the given one. -/
def daysBeforeMonth (year : Int) : Nat → Nat
  | 0 => 0
  | 1 => 0
  | month + 1 => daysBeforeMonth year month + daysInMonth year month

/-- Days from 1970-01-01. -/
def dayNumber (date : Date) : Int :=
  let before := date.year - 1
  365 * before + before / 4 - before / 100 + before / 400 - 719162 +
    (daysBeforeMonth date.year date.month : Int) + (date.day : Int) - 1

end Date

example : (Date.mk 1970 1 1).dayNumber = 0 := by decide

example : (Date.mk 2000 3 1).dayNumber = 11017 := by decide

end Calendar
end WorkloadPolicy
