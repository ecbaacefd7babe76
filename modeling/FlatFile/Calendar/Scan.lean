/-
  FlatFile/Calendar/Scan.lean
  ===========================
  **Reading a text by a date pattern.**

  The items of a pattern take their part of the text one after the other and fill
  in fields; the text has to end where the pattern does.  Blanks in front of a
  number are passed over, a number takes no more digits than its field can have,
  and names are read in any case.

  A text is read as a moment if its fields describe one, else as a day, which
  begins at midnight, else as a time of the day on which the epoch starts.
-/
import FlatFile.Calendar.Fields
import FlatFile.Calendar.Pattern
import FlatFile.Text.Numeral

namespace FlatFile.Calendar

/-! ### Pieces of text -/

/-- The greatest number that can be read, 2⁶³ - 1. -/
def greatestNumber : Nat := 9223372036854775807

/-- The digits that a text begins with: the number they write, how many they are, and the
    text after them. -/
structure DigitRun where
  /-- The number that the digits write. -/
  value : Nat
  /-- How many digits there are. -/
  count : Nat
  /-- The text after the digits. -/
  rest : List Char

/-- The digits of `text`, no more than `most` where there is a bound, after `count` digits
    that write `value`; a number that is already too great stays as it is. -/
def digitRun (most : Option Nat) (value count : Nat) : List Char → DigitRun
  | [] => ⟨value, count, []⟩
  | c :: rest =>
    match Text.digitValue? c with
    | some d =>
      if most = some count then ⟨value, count, c :: rest⟩
      else digitRun most (if greatestNumber < value then value else 10 * value + d) (count + 1) rest
    | none => ⟨value, count, c :: rest⟩

/-- A number of at least `least` digits, and of `most` at most where there is a bound. -/
def number? (least : Nat) (most : Option Nat) (text : List Char) : Option DigitRun :=
  let run := digitRun most 0 0 text
  if run.count < least ∨ greatestNumber < run.value then none else some run

/-- A year: after a sign any number of digits, without one as many as are allowed. -/
def signedNumber? (most : Option Nat) : List Char → Option (Int × List Char)
  | '-' :: rest => (number? 1 none rest).map fun run => (-(run.value : Int), run.rest)
  | '+' :: rest => (number? 1 none rest).map fun run => ((run.value : Int), run.rest)
  | text => (number? 1 most text).map fun run => ((run.value : Int), run.rest)

/-- A piece of text, in any case of ASCII letters, and the text after it. -/
def afterWord? : List Char → List Char → Option (List Char)
  | [], text => some text
  | _ :: _, [] => none
  | w :: word, c :: text => if c.toLower = w then afterWord? word text else none

/-- The lower case names of the months: three letters, and the letters that may follow
    them. -/
def monthWords : List (String × String) := [
  ("jan", "uary"), ("feb", "ruary"), ("mar", "ch"), ("apr", "il"), ("may", ""), ("jun", "e"),
  ("jul", "y"), ("aug", "ust"), ("sep", "tember"), ("oct", "ober"), ("nov", "ember"),
  ("dec", "ember")]

/-- The lower case names of the weekdays, Monday first. -/
def weekdayWords : List (String × String) := [
  ("mon", "day"), ("tue", "sday"), ("wed", "nesday"), ("thu", "rsday"), ("fri", "day"),
  ("sat", "urday"), ("sun", "day")]

/-- The position of the name that a text begins with, and the text after it; a long name
    is taken only where `long` allows it. -/
def name? (long : Bool) (text : List Char) (position : Nat) :
    List (String × String) → Option (Nat × List Char)
  | [] => none
  | (short, more) :: names =>
    match afterWord? short.toList text with
    | some rest =>
      let tail := if long then afterWord? more.toList rest else none
      some (position, tail.getD rest)
    | none => name? long text (position + 1) names

/-- The fraction of a second after its point, in nanoseconds, and the text after all its
    digits; those past the ninth are dropped. -/
def fraction? (text : List Char) : Option (Nat × List Char) :=
  (number? 1 (some 9) text).map fun run =>
    (run.value * Nat.pow 10 (9 - run.count),
      run.rest.dropWhile fun c => (Text.digitValue? c).isSome)

/-- The fraction of a second written with exactly so many digits, in nanoseconds, and the
    text after them. -/
def fixedFraction? (width : Nat) (text : List Char) : Option (Nat × List Char) :=
  (number? width (some width) text).map fun run =>
    (run.value * Nat.pow 10 (9 - width), run.rest)

def twoDigits? : List Char → Option (Nat × List Char)
  | a :: b :: rest =>
    match Text.digitValue? a, Text.digitValue? b with
    | some a, some b => some (10 * a + b, rest)
    | _, _ => none
  | _ => none

/-- The offset after its sign, in seconds. -/
def unsignedOffset? (permissive : Bool) (text : List Char) : Option (Nat × List Char) := do
  let (hours, rest) ← twoDigits? text
  let rest := rest.dropWhile fun c => c == ':' || Text.isBlankChar c
  if permissive && rest.isEmpty then return (3600 * hours, rest)
  let (minutes, rest) ← twoDigits? rest
  guard (minutes < 60)
  return (3600 * hours + 60 * minutes, rest)

def offset? (zulu permissive : Bool) : List Char → Option (Int × List Char)
  | [] => none
  | c :: rest =>
    if zulu && (c == 'Z' || c == 'z') then some (0, rest)
    else if c = '+' then
      (unsignedOffset? permissive rest).map fun (value, rest) => ((value : Int), rest)
    else if c = '-' ∨ c = '\u2212' then
      (unsignedOffset? permissive rest).map fun (value, rest) => (-(value : Int), rest)
    else none

/-! ### Items -/

/-- The most digits a numeric field is read from; a timestamp takes them all. -/
def NumericField.digits : NumericField → Option Nat
  | .year | .isoYear => some 4
  | .quarter | .weekdayFromSunday | .weekdayFromMonday => some 1
  | .ordinal => some 3
  | .nanosecond => some 9
  | .timestamp => none
  | _ => some 2

def NumericField.set? (field : NumericField) (value : Int) (fields : Fields) : Option Fields :=
  match field with
  | .year => fields.setYear? value
  | .century => fields.setCentury? value
  | .yearOfCentury => fields.setYearOfCentury? value
  | .isoYear => fields.setIsoYear? value
  | .isoYearOfCentury => fields.setIsoYearOfCentury? value
  | .quarter => fields.setQuarter? value
  | .month => fields.setMonth? value
  | .day => fields.setDay? value
  | .weekFromSunday => fields.setWeekFromSunday? value
  | .weekFromMonday => fields.setWeekFromMonday? value
  | .isoWeek => fields.setIsoWeek? value
  | .weekdayFromSunday => do
    let value ← Fields.within? 0 6 value
    fields.setWeekday? ((value + 6) % 7)
  | .weekdayFromMonday => do
    let value ← Fields.within? 1 7 value
    fields.setWeekday? (value - 1)
  | .ordinal => fields.setOrdinal? value
  | .hour => fields.setHour? value
  | .hour12 => fields.setHour12? value
  | .minute => fields.setMinute? value
  | .second => fields.setSecond? value
  | .nanosecond => fields.setNanosecond? value
  | .timestamp => fields.setTimestamp? value

def NumericField.scan? (field : NumericField) (fields : Fields) (text : List Char) :
    Option (Fields × List Char) := do
  let text := Text.trimStart text
  let (value, rest) ←
    if field = .year ∨ field = .isoYear then signedNumber? field.digits text
    else (number? 1 field.digits text).map fun run => ((run.value : Int), run.rest)
  let fields ← field.set? value fields
  return (fields, rest)

/-- The text after a mark between two numbers of the exchange form; blanks may stand in
    front of it. -/
def afterMark? (mark : Char) (text : List Char) : Option (List Char) :=
  Text.after? [mark] (Text.trimStart text)

/-- Reads the exchange form: day, a separator, time, fraction and offset. -/
def scanExchange? (fields : Fields) (text : List Char) : Option (Fields × List Char) := do
  let (fields, text) ← NumericField.year.scan? fields text
  let text ← afterMark? '-' text
  let (fields, text) ← NumericField.month.scan? fields text
  let text ← afterMark? '-' text
  let (fields, text) ← NumericField.day.scan? fields text
  let text ←
    match text with
    | c :: rest => if c = 't' ∨ c = 'T' ∨ c = ' ' then some rest else none
    | [] => none
  let (fields, text) ← NumericField.hour.scan? fields text
  let text ← afterMark? ':' text
  let (fields, text) ← NumericField.minute.scan? fields text
  let text ← afterMark? ':' text
  let (fields, text) ← NumericField.second.scan? fields text
  let (fields, text) ←
    match text with
    | '.' :: rest => do
      let (value, rest) ← fraction? rest
      let fields ← fields.setNanosecond? value
      some (fields, rest)
    | _ => some (fields, text)
  let text := Text.trimStart text
  let (value, rest) ←
    match afterWord? ['u', 't', 'c'] text with
    | some rest => some (0, rest)
    | none => offset? true false text
  let fields ← fields.setOffset? value
  return (fields, rest)

/-- Reads what an item stands for: the fields with it, and the text after it. -/
def PatternItem.scan? (item : PatternItem) (fields : Fields) (text : List Char) :
    Option (Fields × List Char) :=
  match item with
  | .literal c => (Text.after? [c] text).map fun rest => (fields, rest)
  | .blank _ => some (fields, Text.trimStart text)
  | .numeric field _ => field.scan? fields text
  | .monthName long => do
    let (position, rest) ← name? long text 0 monthWords
    let fields ← fields.setMonth? (position + 1)
    return (fields, rest)
  | .weekdayName long => do
    let (position, rest) ← name? long text 0 weekdayWords
    let fields ← fields.setWeekday? position
    return (fields, rest)
  | .halfDay _ => do
    let (half, rest) ←
      match afterWord? ['a', 'm'] text with
      | some rest => some (0, rest)
      | none => (afterWord? ['p', 'm'] text).map fun rest => (1, rest)
    let fields ← fields.setHalfDay? half
    return (fields, rest)
  | .pointFraction width =>
    match text with
    | '.' :: rest => do
      let (value, rest) ← match width with
        | none => fraction? rest
        | some width => fixedFraction? width rest
      let fields ← fields.setNanosecond? value
      return (fields, rest)
    | _ => some (fields, text)
  | .fraction width => do
    let (value, rest) ← fixedFraction? width text
    let fields ← fields.setNanosecond? value
    return (fields, rest)
  | .zoneName => some (fields, text.dropWhile fun c => !Text.isBlankChar c)
  | .offset permissive => do
    let (value, rest) ← offset? permissive permissive (Text.trimStart text)
    let fields ← fields.setOffset? value
    return (fields, rest)
  | .exchange => scanExchange? fields text

/-- The fields that a text fills in when it is read by the items, to its end. -/
def scanFrom? (fields : Fields) : Pattern → List Char → Option Fields
  | [], text => if text.isEmpty then some fields else none
  | item :: items, text =>
    match item.scan? fields text with
    | some (fields, rest) => scanFrom? fields items rest
    | none => none

/-- **The moment that a text describes under a pattern.** -/
def Pattern.scan? (pattern : Pattern) (text : List Char) : Option Moment := do
  let fields ← scanFrom? {} pattern text
  match fields.moment? with
  | some moment => some moment
  | none =>
    match fields.date with
    | .ok date => some ⟨date, .midnight⟩
    | .error _ => fields.time.toOption.map fun time => ⟨epoch, time⟩

end FlatFile.Calendar
