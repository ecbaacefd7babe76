/-
  FlatFile/Calendar/Print.lean
  ============================
  **Writing a moment by a date pattern.**

  Every item of a pattern writes its part of the moment.  Numbers are filled up
  to their usual width; a year of more than four digits, or before year 0, has a
  sign.  A moment has no offset from universal time, so it cannot be written by a
  pattern that asks for one.
-/
import FlatFile.Calendar.Date
import FlatFile.Calendar.Pattern
import FlatFile.Text.Numeral

namespace FlatFile.Calendar

/-- A number filled up in front to a width. -/
def filled (filling : Filling) (width : Nat) (digits : List Char) : List Char :=
  match filling with
  | .nothing => digits
  | .zeros => List.replicate (width - digits.length) '0' ++ digits
  | .spaces => List.replicate (width - digits.length) ' ' ++ digits

/-- A number with its sign: zeros come after the sign, spaces before it. -/
def filledSigned (filling : Filling) (width : Nat) (plus : Bool) (value : Int) : List Char :=
  let sign := if value < 0 then ['-'] else if plus then ['+'] else []
  match filling with
  | .zeros => sign ++ filled .zeros (width - sign.length) (Text.decimal value.natAbs)
  | _ => filled filling width (sign ++ Text.decimal value.natAbs)

/-- A year: four digits, or a sign in front of them and more where it needs one. -/
def writtenYear (filling : Filling) (year : Int) : List Char :=
  if 0 ≤ year ∧ year < 10000 then filledSigned filling 4 false year
  else filledSigned filling 5 true year

/-- A number in two places.  Larger numbers are written as an octet whose tens stand in
    one character. -/
def writtenTwo (filling : Filling) (value : Nat) : List Char :=
  let octet := value % 256
  let ones := Char.ofNat ('0'.toNat + octet % 10)
  let tens := Char.ofNat ('0'.toNat + octet / 10)
  if octet < 10 then
    match filling with
    | .nothing => [ones]
    | .spaces => [' ', ones]
    | .zeros => ['0', ones]
  else [tens, ones]

/-- A century, taken modulo an octet where it does not fit one. -/
def octetOf (value : Int) : Nat := (value % 256).toNat

def NumericField.written (field : NumericField) (filling : Filling) (moment : Moment) :
    List Char :=
  let date := moment.date
  let time := moment.time
  match field with
  | .year => writtenYear filling date.year
  | .century => writtenTwo filling (octetOf (date.year / 100))
  | .yearOfCentury => writtenTwo filling (date.year % 100).toNat
  | .isoYear => writtenYear filling date.isoYear
  | .isoYearOfCentury => writtenTwo filling (date.isoYear % 100).toNat
  | .quarter => Text.decimal date.quarter
  | .month => writtenTwo filling date.month
  | .day => writtenTwo filling date.day
  | .weekFromSunday => writtenTwo filling (date.weekFrom 6)
  | .weekFromMonday => writtenTwo filling (date.weekFrom 0)
  | .isoWeek => writtenTwo filling date.isoWeek
  | .weekdayFromSunday => Text.decimal ((date.weekday + 1) % 7)
  | .weekdayFromMonday => Text.decimal (date.weekday + 1)
  | .ordinal => filled filling 3 (Text.decimal date.ordinal)
  | .hour => writtenTwo filling time.hour
  | .hour12 => writtenTwo filling time.hour12
  | .minute => writtenTwo filling time.minute
  | .second => writtenTwo filling time.shownSecond
  | .nanosecond => filled filling 9 (Text.decimal time.shownFraction)
  | .timestamp => filledSigned filling 9 false moment.timestamp

def monthNames : List String := [
  "January", "February", "March", "April", "May", "June", "July", "August", "September",
  "October", "November", "December"]

/-- The names of the weekdays, Monday first. -/
def weekdayNames : List String := [
  "Monday", "Tuesday", "Wednesday", "Thursday", "Friday", "Saturday", "Sunday"]

/-- A name, or its first three letters. -/
def writtenName (long : Bool) (names : List String) (position : Nat) : List Char :=
  let name := (names.getD position "").toList
  if long then name else name.take 3

/-- The first digits of a fraction of a second. -/
def writtenFraction (width nanoseconds : Nat) : List Char :=
  filled .zeros width (Text.decimal (nanoseconds / Nat.pow 10 (9 - width)))

/-- The digits a fraction is written with when the pattern leaves it open: the fewest of
    three, six and nine that lose nothing. -/
def openFractionWidth (nanoseconds : Nat) : Nat :=
  if nanoseconds % 1000000 = 0 then 3 else if nanoseconds % 1000 = 0 then 6 else 9

/-- What an item writes of a moment, none if a moment does not have it. -/
def PatternItem.written? (moment : Moment) : PatternItem → Option (List Char)
  | .literal c | .blank c => some [c]
  | .numeric field filling => some (field.written filling moment)
  | .monthName long => some (writtenName long monthNames (moment.date.month - 1))
  | .weekdayName long => some (writtenName long weekdayNames moment.date.weekday)
  | .halfDay upper =>
    let half := if moment.time.hour < 12 then ['A', 'M'] else ['P', 'M']
    some (if upper then half else half.map Char.toLower)
  | .pointFraction none =>
    let nanoseconds := moment.time.shownFraction
    some (if nanoseconds = 0 then []
      else '.' :: writtenFraction (openFractionWidth nanoseconds) nanoseconds)
  | .pointFraction (some width) => some ('.' :: writtenFraction width moment.time.shownFraction)
  | .fraction width => some (writtenFraction width moment.time.shownFraction)
  | .zoneName | .offset _ | .exchange => none

/-- **The text of a moment under a pattern**, none if the pattern asks for what a moment
    does not have. -/
def Pattern.print? (pattern : Pattern) (moment : Moment) : Option (List Char) :=
  (pattern.mapM (PatternItem.written? moment)).map List.flatten

end FlatFile.Calendar
