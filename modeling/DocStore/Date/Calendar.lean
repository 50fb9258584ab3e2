/-!
# The calendar

Days since 1970-01-01 and milliseconds since its midnight, in the proleptic Gregorian calendar. A
year begins in March for the count of days, so that the leap day is the last day of a year.

* `Civil.toDays` and `Civil.ofDays` convert dates and day counts.
* `Moment.ofMillis?` gives the parts of an instant within the years -262143 to 262142.
-/

namespace DocStore

/-- A date of the calendar. -/
structure Civil where
  year : Int
  month : Nat
  day : Nat
  deriving DecidableEq

namespace Civil

def isLeap (year : Int) : Bool := year % 4 == 0 && (year % 100 != 0 || year % 400 == 0)

def daysInMonth (year : Int) (month : Nat) : Nat :=
  if month = 2 then if isLeap year then 29 else 28
  else if month = 4 ∨ month = 6 ∨ month = 9 ∨ month = 11 then 30 else 31

def minYear : Int := -262143

def maxYear : Int := 262142

/-- Whether the parts name a day of a supported year. -/
def isValid (date : Civil) : Bool :=
  minYear ≤ date.year && date.year ≤ maxYear && 1 ≤ date.month && date.month ≤ 12 &&
    1 ≤ date.day && date.day ≤ daysInMonth date.year date.month

/-- Days since 1970-01-01. -/
def toDays (date : Civil) : Int :=
  let year := if date.month ≤ 2 then date.year - 1 else date.year
  let era := year / 400
  let yearOfEra := year - era * 400
  let monthFromMarch : Int := if date.month ≤ 2 then date.month + 9 else date.month - 3
  let dayOfYear := (153 * monthFromMarch + 2) / 5 + date.day - 1
  let dayOfEra := yearOfEra * 365 + yearOfEra / 4 - yearOfEra / 100 + dayOfYear
  era * 146097 + dayOfEra - 719468

/-- The date of a count of days since 1970-01-01. -/
def ofDays (days : Int) : Civil :=
  let shifted := days + 719468
  let era := shifted / 146097
  let dayOfEra := shifted - era * 146097
  let yearOfEra := (dayOfEra - dayOfEra / 1460 + dayOfEra / 36524 - dayOfEra / 146096) / 365
  let dayOfYear := dayOfEra - (365 * yearOfEra + yearOfEra / 4 - yearOfEra / 100)
  let monthFromMarch := (5 * dayOfYear + 2) / 153
  let day := dayOfYear - (153 * monthFromMarch + 2) / 5 + 1
  let month := if monthFromMarch < 10 then monthFromMarch + 3 else monthFromMarch - 9
  let year := yearOfEra + era * 400
  ⟨if month ≤ 2 then year + 1 else year, month.toNat, day.toNat⟩

end Civil

def millisPerDay : Int := 86400000

/-- An instant as a date and the milliseconds since its midnight. -/
structure Moment where
  date : Civil
  millisOfDay : Nat
  deriving DecidableEq

namespace Moment

def hour (m : Moment) : Nat := m.millisOfDay / 3600000

def minute (m : Moment) : Nat := m.millisOfDay / 60000 % 60

def second (m : Moment) : Nat := m.millisOfDay / 1000 % 60

def millisecond (m : Moment) : Nat := m.millisOfDay % 1000

/-- The parts of any instant. -/
def ofMillis (millis : Int) : Moment :=
  ⟨Civil.ofDays (millis / millisPerDay), (millis % millisPerDay).toNat⟩

/-- The first and the last millisecond of the supported years. -/
def minMillis : Int := Civil.toDays ⟨Civil.minYear, 1, 1⟩ * millisPerDay

def maxMillis : Int := (Civil.toDays ⟨Civil.maxYear, 12, 31⟩ + 1) * millisPerDay - 1

def inRange (millis : Int) : Bool := minMillis ≤ millis && millis ≤ maxMillis

/-- The parts of an instant within the supported years. -/
def ofMillis? (millis : Int) : Option Moment :=
  if inRange millis then some (ofMillis millis) else none

end Moment

end DocStore
