/-
  FlatFile/Calendar/Fields.lean
  =============================
  **From the fields of a text to the moment they describe.**

  Reading a text by a pattern fills in fields, each within its range and never
  with two different values.  A set of fields describes a day if it has a year
  with month and day, with the position in the year, with a weekday and a week
  counted from Sundays or Mondays, or a weekday and a week counted by Thursdays;
  it describes a time if it has hour and minute.  Every other field present has
  to agree with what these say.  A timestamp stands in for whatever is missing.

  The three ways in which fields fail to describe anything are kept apart,
  because a timestamp helps against one of them only.
-/
import FlatFile.Calendar.Date

namespace FlatFile.Calendar

/-- Why fields describe no day or no time. -/
inductive FieldFault where
  /-- A value that the calendar does not have. -/
  | outOfRange
  /-- Fields that contradict each other. -/
  | impossible
  /-- Fields that leave the day or the time open. -/
  | notEnough
deriving DecidableEq, Repr

/-- The fields read from a text.  The hour is kept as its half of the day, 0 or 1, and
    the hour within it; the weekday is 0 on Monday. -/
structure Fields where
  year : Option Int := none
  century : Option Int := none
  yearOfCentury : Option Int := none
  isoYear : Option Int := none
  isoYearOfCentury : Option Int := none
  quarter : Option Nat := none
  month : Option Nat := none
  day : Option Nat := none
  weekFromSunday : Option Nat := none
  weekFromMonday : Option Nat := none
  isoWeek : Option Nat := none
  weekday : Option Nat := none
  ordinal : Option Nat := none
  halfDay : Option Nat := none
  hourOfHalf : Option Nat := none
  minute : Option Nat := none
  second : Option Nat := none
  nanosecond : Option Nat := none
  timestamp : Option Int := none
  offset : Option Int := none
deriving DecidableEq, Repr

namespace Fields

/-! ### Filling in fields -/

/-- The value of a field after it is read once more: the same one, or a contradiction. -/
def agree? {α : Type} [DecidableEq α] (old : Option α) (new : α) : Option (Option α) :=
  match old with
  | none => some (some new)
  | some known => if known = new then some (some new) else none

def within? (low high : Nat) (value : Int) : Option Nat :=
  if (low : Int) ≤ value ∧ value ≤ high then some value.toNat else none

/-- The greatest year number that can be read, 2³¹ - 1. -/
def greatestYear : Int := 2147483647

def yearNumber? (value : Int) : Option Int :=
  if -greatestYear - 1 ≤ value ∧ value ≤ greatestYear then some value else none

def setYear? (fields : Fields) (value : Int) : Option Fields := do
  let value ← yearNumber? value
  let year ← agree? fields.year value
  return { fields with year }

def setCentury? (fields : Fields) (value : Int) : Option Fields := do
  guard (0 ≤ value ∧ value ≤ greatestYear)
  let century ← agree? fields.century value
  return { fields with century }

def setYearOfCentury? (fields : Fields) (value : Int) : Option Fields := do
  let value ← within? 0 99 value
  let yearOfCentury ← agree? fields.yearOfCentury value
  return { fields with yearOfCentury }

def setIsoYear? (fields : Fields) (value : Int) : Option Fields := do
  let value ← yearNumber? value
  let isoYear ← agree? fields.isoYear value
  return { fields with isoYear }

def setIsoYearOfCentury? (fields : Fields) (value : Int) : Option Fields := do
  let value ← within? 0 99 value
  let isoYearOfCentury ← agree? fields.isoYearOfCentury value
  return { fields with isoYearOfCentury }

def setQuarter? (fields : Fields) (value : Int) : Option Fields := do
  let value ← within? 1 4 value
  let quarter ← agree? fields.quarter value
  return { fields with quarter }

def setMonth? (fields : Fields) (value : Int) : Option Fields := do
  let value ← within? 1 12 value
  let month ← agree? fields.month value
  return { fields with month }

def setDay? (fields : Fields) (value : Int) : Option Fields := do
  let value ← within? 1 31 value
  let day ← agree? fields.day value
  return { fields with day }

def setWeekFromSunday? (fields : Fields) (value : Int) : Option Fields := do
  let value ← within? 0 53 value
  let weekFromSunday ← agree? fields.weekFromSunday value
  return { fields with weekFromSunday }

def setWeekFromMonday? (fields : Fields) (value : Int) : Option Fields := do
  let value ← within? 0 53 value
  let weekFromMonday ← agree? fields.weekFromMonday value
  return { fields with weekFromMonday }

def setIsoWeek? (fields : Fields) (value : Int) : Option Fields := do
  let value ← within? 1 53 value
  let isoWeek ← agree? fields.isoWeek value
  return { fields with isoWeek }

/-- Fills in the weekday, 0 being Monday. -/
def setWeekday? (fields : Fields) (value : Nat) : Option Fields := do
  let weekday ← agree? fields.weekday value
  return { fields with weekday }

def setOrdinal? (fields : Fields) (value : Int) : Option Fields := do
  let value ← within? 1 366 value
  let ordinal ← agree? fields.ordinal value
  return { fields with ordinal }

def setHalfDay? (fields : Fields) (half : Nat) : Option Fields := do
  let halfDay ← agree? fields.halfDay half
  return { fields with halfDay }

def setHour12? (fields : Fields) (value : Int) : Option Fields := do
  let value ← within? 1 12 value
  let hourOfHalf ← agree? fields.hourOfHalf (value % 12)
  return { fields with hourOfHalf }

def setHour? (fields : Fields) (value : Int) : Option Fields := do
  let value ← within? 0 23 value
  let halfDay ← agree? fields.halfDay (value / 12)
  let hourOfHalf ← agree? fields.hourOfHalf (value % 12)
  return { fields with halfDay, hourOfHalf }

def setMinute? (fields : Fields) (value : Int) : Option Fields := do
  let value ← within? 0 59 value
  let minute ← agree? fields.minute value
  return { fields with minute }

/-- Fills in the second; 60 is that of a leap second. -/
def setSecond? (fields : Fields) (value : Int) : Option Fields := do
  let value ← within? 0 60 value
  let second ← agree? fields.second value
  return { fields with second }

def setNanosecond? (fields : Fields) (value : Int) : Option Fields := do
  let value ← within? 0 (nanosPerSecond - 1) value
  let nanosecond ← agree? fields.nanosecond value
  return { fields with nanosecond }

def setTimestamp? (fields : Fields) (value : Int) : Option Fields := do
  let timestamp ← agree? fields.timestamp value
  return { fields with timestamp }

/-- Fills in the offset from universal time, which has no bearing on the moment. -/
def setOffset? (fields : Fields) (value : Int) : Option Fields := do
  let offset ← agree? fields.offset value
  return { fields with offset }

/-! ### The day -/

/-- The year that a year number, a century and a year of the century agree on.  A year
    of the century alone lies between 1970 and 2069. -/
def resolveYear (year century ofCentury : Option Int) : Except FieldFault (Option Int) :=
  match year, century, ofCentury with
  | year, none, none => .ok year
  | some y, century, ofCentury =>
    if y < 0 then .error .impossible
    else if century.getD (y / 100) = y / 100 ∧ ofCentury.getD (y % 100) = y % 100 then .ok (some y)
    else .error .impossible
  | none, some c, some r =>
    if 100 * c + r ≤ greatestYear then .ok (some (100 * c + r)) else .error .outOfRange
  | none, none, some r => .ok (some (if r < 70 then 2000 + r else 1900 + r))
  | none, some _, none => .error .notEnough

/-- A field is absent or has this value. -/
def fits {α : Type} [DecidableEq α] (field : Option α) (value : α) : Bool :=
  match field with
  | none => true
  | some given => decide (given = value)

/-- The parts of a year agree with it; a negative year has no parts. -/
def fitsYearParts (century ofCentury : Option Int) (year : Int) : Bool :=
  if 0 ≤ year then fits century (year / 100) && fits ofCentury (year % 100)
  else century.isNone && ofCentury.isNone

/-- Year, month and day agree with a day. -/
def fitsMonthDay (fields : Fields) (date : Date) : Bool :=
  fits fields.year date.year && fitsYearParts fields.century fields.yearOfCentury date.year
    && fits fields.month date.month && fits fields.day date.day

/-- The week counted by Thursdays and the weekday agree with a day. -/
def fitsIsoWeek (fields : Fields) (date : Date) : Bool :=
  fits fields.isoYear date.isoYear
    && fitsYearParts none fields.isoYearOfCentury date.isoYear
    && fits fields.isoWeek date.isoWeek && fits fields.weekday date.weekday

/-- The position in the year and the weeks counted from a weekday agree with a day. -/
def fitsOrdinal (fields : Fields) (date : Date) : Bool :=
  fits fields.ordinal date.ordinal && fits fields.weekFromSunday (date.weekFrom 6)
    && fits fields.weekFromMonday (date.weekFrom 0)

/-- A day that has to exist. -/
def existing (date : Option Date) : Except FieldFault Date :=
  match date with
  | some date => .ok date
  | none => .error .outOfRange

/-- The day of a year with a weekday, in the week that begins on the weekday `start`. -/
def ofWeek (year : Int) (week weekday start : Nat) : Except FieldFault Date :=
  match Date.ofYearOrdinal? year 1 with
  | none => .error .outOfRange
  | some first =>
    let firstStart : Int := 1 + ((start + 7 - first.weekday) % 7 : Nat)
    let ordinal : Int := firstStart + ((week : Int) - 1) * 7 + ((weekday + 7 - start) % 7 : Nat)
    if ordinal ≤ 0 then .error .impossible
    else
      match Date.ofYearOrdinal? year ordinal.toNat with
      | some date => .ok date
      | none => .error .impossible

/-- A day that further fields have to agree with. -/
def verified (date : Except FieldFault Date) (agrees : Date → Bool) : Except FieldFault Date :=
  match date with
  | .error fault => .error fault
  | .ok date => if agrees date then .ok date else .error .impossible

/-- The day that the year and the other fields single out, before the quarter is looked
    at. -/
def dayOf (fields : Fields) (year isoYear : Option Int) : Except FieldFault Date :=
  match year, fields.month, fields.day with
  | some year, some month, some day =>
    verified (existing (Date.ofYearMonthDay? year month day)) fun date =>
      fields.fitsIsoWeek date && fields.fitsOrdinal date
  | year, _, _ =>
    let agrees (date : Date) : Bool :=
      fields.fitsMonthDay date && fields.fitsIsoWeek date && fields.fitsOrdinal date
    match year, fields.ordinal, fields.weekFromSunday, fields.weekFromMonday, fields.weekday with
    | some year, some ordinal, _, _, _ =>
      verified (existing (Date.ofYearOrdinal? year ordinal)) agrees
    | some year, none, some week, _, some weekday => verified (ofWeek year week weekday 6) agrees
    | some year, none, none, some week, some weekday => verified (ofWeek year week weekday 0) agrees
    | _, _, _, _, weekday =>
      match isoYear, fields.isoWeek, weekday with
      | some isoYear, some week, some weekday =>
        verified (existing (Date.ofIsoWeek? isoYear week weekday)) fun date =>
          fields.fitsMonthDay date && fields.fitsOrdinal date
      | _, _, _ => .error .notEnough

/-- **The day that the fields describe.** -/
def date (fields : Fields) : Except FieldFault Date :=
  match resolveYear fields.year fields.century fields.yearOfCentury with
  | .error fault => .error fault
  | .ok year =>
    match resolveYear fields.isoYear none fields.isoYearOfCentury with
    | .error fault => .error fault
    | .ok isoYear =>
      verified (fields.dayOf year isoYear) fun date => fits fields.quarter date.quarter

/-! ### The time -/

/-- **The time that the fields describe.**  Seconds may be missing, but not under a
    fraction. -/
def time (fields : Fields) : Except FieldFault TimeOfDay :=
  match fields.halfDay, fields.hourOfHalf, fields.minute with
  | some half, some hour, some minute =>
    let leap : Bool := fields.second == some 60
    let second := if leap then 59 else fields.second.getD 0
    let whole := if leap then nanosPerSecond else 0
    match fields.nanosecond, fields.second with
    | some _, none => .error .notEnough
    | nanosecond, _ => .ok ⟨12 * half + hour, minute, second, whole + nanosecond.getD 0⟩
  | _, _, _ => .error .notEnough

/-! ### The moment -/

/-- The fields completed by those of a moment; the second is taken back by one where the
    fields ask for a leap second. -/
def completedBy? (fields : Fields) (timestamp : Int) : Option Fields := do
  let moment ← Moment.ofTimestamp? timestamp
  let (fields, moment) ←
    if fields.second = some 60 then
      if moment.time.second = 59 then some (fields, moment)
      else if moment.time.second = 0 then
        (Moment.ofTimestamp? (timestamp - 1)).map fun earlier => (fields, earlier)
      else none
    else
      (fields.setSecond? moment.time.second).map fun fields => (fields, moment)
  let fields ← fields.setYear? moment.date.year
  let fields ← fields.setOrdinal? moment.date.ordinal
  let fields ← fields.setHour? moment.time.hour
  fields.setMinute? moment.time.minute

/-- **The moment that the fields describe.** -/
def moment? (fields : Fields) : Option Moment :=
  match fields.date, fields.time with
  | .ok date, .ok time =>
    let moment : Moment := ⟨date, time⟩
    match fields.timestamp with
    | none => some moment
    | some given =>
      if given = moment.timestamp
          ∨ nanosPerSecond ≤ time.fraction ∧ given = moment.timestamp + 1 then some moment
      else none
  | date, time =>
    match fields.timestamp with
    | none => none
    | some timestamp =>
      let hopeless {α : Type} : Except FieldFault α → Bool
        | .error .notEnough | .ok _ => false
        | .error _ => true
      if hopeless date || hopeless time then none
      else do
        let fields ← fields.completedBy? timestamp
        let date ← fields.date.toOption
        let time ← fields.time.toOption
        return ⟨date, time⟩

end Fields

end FlatFile.Calendar
