/-
  FlatFile/Calendar/Date.lean
  ===========================
  **Days of the Gregorian calendar and times of day.**

  The calendar is extended in both directions without a gap, with a year 0 and
  negative years before it.  Every day has a number, 1 being the first of January
  of year 1; the weekday, the distance between days and the weeks of a year are
  read off these numbers.  A day exists in this library if its year lies between
  `firstYear` and `lastYear`.

  A time of day counts hours, minutes and seconds; a leap second is second 59
  with a full second or more in its fraction.
-/

namespace FlatFile.Calendar

/-! ### Years and months -/

def firstYear : Int := -262143

def lastYear : Int := 262142

def isLeapYear (year : Int) : Bool :=
  year % 4 == 0 && (year % 100 != 0 || year % 400 == 0)

def daysInYear (year : Int) : Nat := if isLeapYear year then 366 else 365

/-- The lengths of the months of a year, in order. -/
def monthLengths (year : Int) : List Nat :=
  [31, if isLeapYear year then 29 else 28, 31, 30, 31, 30, 31, 31, 30, 31, 30, 31]

/-- The number of days of a month, none for a number that is no month. -/
def daysInMonth (year : Int) (month : Nat) : Nat :=
  if month = 0 then 0 else (monthLengths year).getD (month - 1) 0

/-- The days of a year before a month. -/
def daysBeforeMonth (year : Int) (month : Nat) : Nat :=
  ((monthLengths year).take (month - 1)).foldl (· + ·) 0

/-! ### Days -/

/-- A day: year, month from 1 to 12, day of the month from 1. -/
structure Date where
  year : Int
  month : Nat
  day : Nat
deriving DecidableEq, Repr

namespace Date

/-- The day of a year, month and day of the month, if the calendar has it. -/
def ofYearMonthDay? (year : Int) (month day : Nat) : Option Date :=
  if firstYear ≤ year ∧ year ≤ lastYear ∧ 1 ≤ day ∧ day ≤ daysInMonth year month then
    some ⟨year, month, day⟩
  else none

/-- The month in which the `n`-th day after the start of a year falls, and the day of
    the month, given the month at hand and the lengths from it on. -/
def monthOf (month n : Nat) : List Nat → Nat × Nat
  | [] => (month, n)
  | length :: lengths => if n ≤ length then (month, n) else monthOf (month + 1) (n - length) lengths

/-- The `ordinal`-th day of a year, if the calendar has it. -/
def ofYearOrdinal? (year : Int) (ordinal : Nat) : Option Date :=
  if firstYear ≤ year ∧ year ≤ lastYear ∧ 1 ≤ ordinal ∧ ordinal ≤ daysInYear year then
    let (month, day) := monthOf 1 ordinal (monthLengths year)
    some ⟨year, month, day⟩
  else none

/-- The position of a day in its year, from 1. -/
def ordinal (date : Date) : Nat := daysBeforeMonth date.year date.month + date.day

/-- The days before the first of January of a year, from that of year 1 on. -/
def daysBeforeYear (year : Int) : Int :=
  365 * (year - 1) + (year - 1) / 4 - (year - 1) / 100 + (year - 1) / 400

def number (date : Date) : Int := daysBeforeYear date.year + date.ordinal

/-- The year and the position in it of the day with a number: whole periods of four
    centuries first, then centuries, four years and years. -/
def yearOrdinalOfNumber (number : Int) : Int × Nat :=
  let period := (number - 1) / 146097
  let inPeriod := ((number - 1) % 146097).toNat
  let century := min (inPeriod / 36524) 3
  let inCentury := inPeriod - 36524 * century
  let four := inCentury / 1461
  let inFour := inCentury % 1461
  let year := min (inFour / 365) 3
  (400 * period + (100 * century + 4 * four + year : Nat) + 1, inFour - 365 * year + 1)

def ofNumber? (number : Int) : Option Date :=
  let (year, ordinal) := yearOrdinalOfNumber number
  ofYearOrdinal? year ordinal

/-- The weekday: 0 is Monday, 6 is Sunday. -/
def weekday (date : Date) : Nat := ((date.number - 1) % 7).toNat

/-- The quarter of the year, from 1. -/
def quarter (date : Date) : Nat := (date.month - 1) / 3 + 1

/-- The days since the last weekday `start`, that day included. -/
def daysSince (date : Date) (start : Nat) : Nat := (date.weekday + 7 - start) % 7

/-- The week of the year where weeks begin on the weekday `start` and week 1 on its
    first occurrence in the year. -/
def weekFrom (date : Date) (start : Nat) : Nat := (date.ordinal + 6 - date.daysSince start) / 7

/-- The Thursday of the week that begins on the Monday before. -/
def thursday (date : Date) : Int := date.number - date.weekday + 3

/-- The year to which the week of a day belongs: the one of its Thursday. -/
def isoYear (date : Date) : Int := (yearOrdinalOfNumber date.thursday).1

/-- The week of that year, from 1. -/
def isoWeek (date : Date) : Nat := ((yearOrdinalOfNumber date.thursday).2 - 1) / 7 + 1

/-- The day of a week that is counted by Thursdays, if the year has that week. -/
def ofIsoWeek? (year : Int) (week weekday : Nat) : Option Date :=
  let fourth := daysBeforeYear year + 4
  let monday := fourth - (fourth - 1) % 7 + 7 * ((week : Int) - 1)
  if 1 ≤ week ∧ (yearOrdinalOfNumber (monday + 3)).1 = year then ofNumber? (monday + weekday)
  else none

end Date

/-! ### Times -/

/-- A time of day.  The fraction counts nanoseconds. -/
structure TimeOfDay where
  hour : Nat
  minute : Nat
  second : Nat
  fraction : Nat
deriving DecidableEq, Repr

def nanosPerSecond : Nat := 1000000000

namespace TimeOfDay

def midnight : TimeOfDay := ⟨0, 0, 0, 0⟩

/-- The second as it is written: 60 in a leap second. -/
def shownSecond (time : TimeOfDay) : Nat := time.second + time.fraction / nanosPerSecond

/-- The fraction as it is written. -/
def shownFraction (time : TimeOfDay) : Nat := time.fraction % nanosPerSecond

/-- The seconds since the start of the day; a leap second counts as the one before. -/
def seconds (time : TimeOfDay) : Nat := 3600 * time.hour + 60 * time.minute + time.second

/-- The hour on a twelve hour clock, from 1 to 12. -/
def hour12 (time : TimeOfDay) : Nat := if time.hour % 12 = 0 then 12 else time.hour % 12

end TimeOfDay

structure Moment where
  date : Date
  time : TimeOfDay
deriving DecidableEq, Repr

/-- The number of the day from which timestamps count. -/
def epochDay : Int := 719163

def epoch : Date := ⟨1970, 1, 1⟩

def secondsPerDay : Int := 86400

namespace Moment

def timestamp (moment : Moment) : Int :=
  secondsPerDay * (moment.date.number - epochDay) + moment.time.seconds

/-- The moment with a timestamp, if the calendar has it. -/
def ofTimestamp? (timestamp : Int) : Option Moment :=
  let seconds := (timestamp % secondsPerDay).toNat
  (Date.ofNumber? (timestamp / secondsPerDay + epochDay)).map fun date =>
    ⟨date, ⟨seconds / 3600, seconds / 60 % 60, seconds % 60, 0⟩⟩

end Moment

end FlatFile.Calendar
