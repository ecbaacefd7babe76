/-
  FlatFile/Calendar/Pattern.lean
  ==============================
  **Date patterns.**

  A pattern describes how a moment is written: a percent sign and a letter stand
  for a field of it, blanks for blanks, and everything else for itself.  A letter
  may be a short form for several fields with punctuation between them.  A single
  numeric field takes a sign between the percent sign and its letter that
  replaces its usual filling: `-` none, `0` zeros, `_` spaces.

  `Pattern.read?` turns the text of a pattern into its items; a text with an
  unknown letter, or with a percent sign that leads nowhere, is no pattern.
-/
import FlatFile.Text.Blank
import FlatFile.Text.Separated

namespace FlatFile.Calendar

/-! ### Items -/

inductive NumericField where
  | year
  | century
  | yearOfCentury
  | isoYear
  | isoYearOfCentury
  | quarter
  | month
  | day
  | weekFromSunday
  | weekFromMonday
  | isoWeek
  /-- The weekday, 0 being Sunday. -/
  | weekdayFromSunday
  /-- The weekday, 1 being Monday. -/
  | weekdayFromMonday
  | ordinal
  | hour
  | hour12
  | minute
  | second
  | nanosecond
  | timestamp
deriving DecidableEq, Repr

/-- What fills a number up to its usual width. -/
inductive Filling where
  | nothing
  | zeros
  | spaces
deriving DecidableEq, Repr

/-- A piece of a pattern. -/
inductive PatternItem where
  | literal (c : Char)
  /-- A blank, written as it is and read as any number of blanks. -/
  | blank (c : Char)
  | numeric (field : NumericField) (filling : Filling)
  | monthName (long : Bool)
  | weekdayName (long : Bool)
  /-- The half of the day. -/
  | halfDay (upper : Bool)
  /-- A point and the fraction of a second, absent if it is zero; with a width, always
      that many digits. -/
  | pointFraction (width : Option Nat)
  /-- The fraction of a second to a number of digits, without a point. -/
  | fraction (width : Nat)
  | zoneName
  /-- The offset from universal time.  A permissive one may lack its minutes, or be a
      `Z`. -/
  | offset (permissive : Bool)
  /-- Day, time, fraction and offset in the usual exchange form. -/
  | exchange
deriving DecidableEq, Repr

abbrev Pattern := List PatternItem

/-! ### Letters -/

/-- A numeric field filled with zeros. -/
private def zeroed (field : NumericField) : PatternItem := .numeric field .zeros

/-- A punctuation character between two fields. -/
private def mark (c : Char) : PatternItem := .literal c

/-- The day as month, day of the month and year of the century. -/
private def slashedDate : Pattern :=
  [zeroed .month, mark '/', zeroed .day, mark '/', zeroed .yearOfCentury]

private def clockTime : Pattern :=
  [zeroed .hour, mark ':', zeroed .minute, mark ':', zeroed .second]

def letterItems? : Char → Option Pattern
  | 'A' => some [.weekdayName true]
  | 'B' => some [.monthName true]
  | 'C' => some [zeroed .century]
  | 'D' => some slashedDate
  | 'F' => some [zeroed .year, mark '-', zeroed .month, mark '-', zeroed .day]
  | 'G' => some [zeroed .isoYear]
  | 'H' => some [zeroed .hour]
  | 'I' => some [zeroed .hour12]
  | 'M' => some [zeroed .minute]
  | 'P' => some [.halfDay false]
  | 'R' => some [zeroed .hour, mark ':', zeroed .minute]
  | 'S' => some [zeroed .second]
  | 'T' => some clockTime
  | 'U' => some [zeroed .weekFromSunday]
  | 'V' => some [zeroed .isoWeek]
  | 'W' => some [zeroed .weekFromMonday]
  | 'X' => some clockTime
  | 'Y' => some [zeroed .year]
  | 'Z' => some [.zoneName]
  | 'a' => some [.weekdayName false]
  | 'b' => some [.monthName false]
  | 'c' =>
    some ([.weekdayName false, .blank ' ', .monthName false, .blank ' ',
      .numeric .day .spaces, .blank ' '] ++ clockTime ++ [.blank ' ', zeroed .year])
  | 'd' => some [zeroed .day]
  | 'e' => some [.numeric .day .spaces]
  | 'f' => some [zeroed .nanosecond]
  | 'g' => some [zeroed .isoYearOfCentury]
  | 'h' => some [.monthName false]
  | 'j' => some [zeroed .ordinal]
  | 'k' => some [.numeric .hour .spaces]
  | 'l' => some [.numeric .hour12 .spaces]
  | 'm' => some [zeroed .month]
  | 'n' => some [.blank '\n']
  | 'p' => some [.halfDay true]
  | 'q' => some [.numeric .quarter .nothing]
  | 'r' =>
    some [zeroed .hour12, mark ':', zeroed .minute, mark ':', zeroed .second, .blank ' ',
      .halfDay true]
  | 's' => some [.numeric .timestamp .nothing]
  | 't' => some [.blank '\t']
  | 'u' => some [.numeric .weekdayFromMonday .nothing]
  | 'v' => some [.numeric .day .spaces, mark '-', .monthName false, mark '-', zeroed .year]
  | 'w' => some [.numeric .weekdayFromSunday .nothing]
  | 'x' => some slashedDate
  | 'y' => some [zeroed .yearOfCentury]
  | 'z' => some [.offset false]
  | '+' => some [.exchange]
  | '%' => some [mark '%']
  | _ => none

/-- The filling that a sign after the percent sign asks for. -/
def filling? : Char → Option Filling
  | '-' => some .nothing
  | '0' => some .zeros
  | '_' => some .spaces
  | _ => none

def fractionWidth? : Char → Option Nat
  | '3' => some 3
  | '6' => some 6
  | '9' => some 9
  | _ => none

/-- The specification after a percent sign: its items and how many characters it
    takes. -/
def specification? : List Char → Option (Pattern × Nat)
  | ':' :: ':' :: ':' :: 'z' :: _ => some ([.offset false], 4)
  | ':' :: ':' :: 'z' :: _ => some ([.offset false], 3)
  | ':' :: 'z' :: _ => some ([.offset false], 2)
  | '#' :: 'z' :: _ => some ([.offset true], 2)
  | '.' :: 'f' :: _ => some ([.pointFraction none], 2)
  | '.' :: digit :: 'f' :: _ =>
    (fractionWidth? digit).map fun width => ([.pointFraction (some width)], 3)
  | sign :: rest =>
    match filling? sign, rest with
    | some filling, letter :: _ =>
      match letterItems? letter with
      | some [.numeric field _] => some ([.numeric field filling], 2)
      | _ => none
    | some _, [] => none
    | none, 'f' :: _ =>
      match fractionWidth? sign with
      | some width => some ([.fraction width], 2)
      | none => (letterItems? sign).map fun items => (items, 1)
    | none, _ => (letterItems? sign).map fun items => (items, 1)
  | [] => none

/-! ### Patterns -/

/-- The items of a pattern of which the first `skip` characters are already accounted
    for. -/
def readFrom? : Nat → List Char → Option Pattern
  | _, [] => some []
  | skip + 1, _ :: rest => readFrom? skip rest
  | 0, c :: rest =>
    if c = '%' then
      match specification? rest with
      | some (items, taken) => (readFrom? taken rest).map (items ++ ·)
      | none => none
    else (readFrom? 0 rest).map ((if Text.isBlankChar c then .blank c else .literal c) :: ·)

/-- **The items of a pattern**, none if the text is no pattern. -/
def Pattern.read? (text : List Char) : Option Pattern := readFrom? 0 text

/-- A pattern fit for the settings of a converter: well formed and not empty. -/
def Pattern.isUsable (text : String) : Bool :=
  !text.toList.isEmpty && (Pattern.read? text.toList).isSome

end FlatFile.Calendar
