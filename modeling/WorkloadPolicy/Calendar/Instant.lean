import WorkloadPolicy.Calendar.Date

/-!
# Instants

An instant is a date and a time of day in Coordinated Universal Time, to the
nanosecond.  A leap second is the second before it with a nanosecond count of
a thousand million or more.  A local time stands some seconds ahead of
Coordinated Universal Time; taking them off yields its instant.
-/

namespace WorkloadPolicy
namespace Calendar

/-- Nanoseconds in a second. -/
def nanosPerSecond : Nat := 1000000000

/-- Seconds in a day without leap seconds. -/
def secondsPerDay : Nat := 86400

/-- A point in time. -/
structure Instant where
  date : Date
  /-- Seconds since midnight. -/
  second : Nat
  /-- Nanoseconds since the start of that second. -/
  nano : Nat
  deriving DecidableEq, Repr

namespace Instant

/-- Nanoseconds from `earlier` to `later`.  A leap second between the two times
of day counts. -/
def elapsed (later earlier : Instant) : Int :=
  let leap : Int :=
    if earlier.second < later.second then
      if nanosPerSecond ≤ earlier.nano then 1 else 0
    else if later.second < earlier.second then
      if nanosPerSecond ≤ later.nano then -1 else 0
    else
      0
  let days := later.date.dayNumber - earlier.date.dayNumber
  let seconds := (later.second : Int) - (earlier.second : Int) + leap
  (days * (secondsPerDay : Int) + seconds) * (nanosPerSecond : Int) +
    ((later.nano : Int) - (earlier.nano : Int))

/-- The greatest count of days that fits a duration. -/
def greatestDayCount : Nat := 106751991167

/-- Whether a span of so many days fits a duration. -/
def dayCountFits (days : Int) : Bool :=
  days.natAbs ≤ greatestDayCount

/-- Whether `instant` lies more than `days` days before `now`. -/
def isOlderThan (instant now : Instant) (days : Int) : Bool :=
  days * (secondsPerDay : Int) * (nanosPerSecond : Int) < now.elapsed instant

/-- Whether an instant is on a date that can be kept. -/
def inRange (instant : Instant) : Bool :=
  instant.date.inRange

end Instant

/-- A local date and time with its lead over Coordinated Universal Time in
seconds. -/
structure LocalTime where
  date : Date
  second : Nat
  nano : Nat
  lead : Int
  deriving DecidableEq, Repr

namespace LocalTime

/-- The instant of a local time whose lead is less than a day. -/
def instant (localTime : LocalTime) : Instant :=
  let second := (localTime.second : Int) - localTime.lead
  if second < 0 then
    ⟨localTime.date.previous, (second + (secondsPerDay : Int)).toNat, localTime.nano⟩
  else if second < (secondsPerDay : Int) then
    ⟨localTime.date, second.toNat, localTime.nano⟩
  else
    ⟨localTime.date.next, (second - (secondsPerDay : Int)).toNat, localTime.nano⟩

/-- A local time from the numbers of its parts, if they exist.  Second 60 is a
leap second. -/
def ofParts?
    (date : Date)
    (hour minute second nano : Nat)
    (lead : Int) : Option LocalTime :=
  if date.isValid && hour < 24 && minute < 60 && second ≤ 60 then
    let whole := hour * 3600 + minute * 60
    if second = 60 then
      some ⟨date, whole + 59, nanosPerSecond + nano, lead⟩
    else
      some ⟨date, whole + second, nano, lead⟩
  else
    none

@[simp] theorem instant_of_lead_zero
    (date : Date)
    (second nano : Nat)
    (bounded : second < secondsPerDay) :
    (LocalTime.mk date second nano 0).instant = ⟨date, second, nano⟩ := by
  have notNegative : ¬ ((second : Int) - 0 < 0) := by omega
  have inDay : (second : Int) - 0 < (secondsPerDay : Int) := by omega
  simp only [instant, notNegative, inDay, ↓reduceIte]
  simp

end LocalTime
end Calendar
end WorkloadPolicy
