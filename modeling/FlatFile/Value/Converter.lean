/-
  FlatFile/Value/Converter.lean
  =============================
  **Converters of column values.**

  A converter turns the text of a column into the text put into the document, and
  back when lines are recovered.  The document gets its result as it is: markup
  in it is escaped only by the converter that does just that.  Text a converter
  has no use for, a number that is none or a date that does not fit its pattern,
  goes through unchanged.
-/
import FlatFile.Calendar.Print
import FlatFile.Calendar.Scan
import FlatFile.Failure
import FlatFile.Markup.Escape

namespace FlatFile

/-! ### Numbers -/

/-- Numbers lose leading zeros and a plus sign; blank text and zero may become empty. -/
structure NumberRule where
  blankToEmpty : Bool := true
  zeroToEmpty : Bool := true
deriving DecidableEq, Repr

/-- The normal form of a number. -/
def NumberRule.toDocument (converter : NumberRule) (text : List Char) : List Char :=
  let trimmed := Text.trim text
  if trimmed.isEmpty then
    if converter.blankToEmpty then [] else text
  else
    match Text.wideInteger? trimmed with
    | some value => if value = 0 ∧ converter.zeroToEmpty then [] else Text.signedDecimal value
    | none => text

/-! ### Dates -/

/-- Dates change from one pattern to another; blank text may become empty. -/
structure DateRule where
  inputPattern : String
  outputPattern : String
  blankToEmpty : Bool := true
deriving DecidableEq, Repr

namespace DateRule

/-- Both patterns have to be usable; the first one that is not is at fault. -/
def check (converter : DateRule) : Except Failure Unit :=
  if !Calendar.Pattern.isUsable converter.inputPattern then
    .error (.configuration (.datePattern converter.inputPattern))
  else if !Calendar.Pattern.isUsable converter.outputPattern then
    .error (.configuration (.datePattern converter.outputPattern))
  else .ok ()

/-- The moment that a text describes under one pattern, written by another. -/
def restated? (source target : String) (text : List Char) : Option (List Char) := do
  let source ← Calendar.Pattern.read? source.toList
  let target ← Calendar.Pattern.read? target.toList
  let moment ← Calendar.Pattern.scan? source text
  Calendar.Pattern.print? target moment

/-- A text changed from one pattern to another. -/
def reformat (converter : DateRule) (source target : String) (text : List Char) :
    List Char :=
  if Text.isBlank text then
    if converter.blankToEmpty then [] else text
  else (restated? source target text).getD text

/-- A date of a line as the document has it. -/
def toDocument (converter : DateRule) (text : List Char) : List Char :=
  converter.reformat converter.inputPattern converter.outputPattern text

/-- A date of the document as a line has it. -/
def toLine (converter : DateRule) (text : List Char) : List Char :=
  converter.reformat converter.outputPattern converter.inputPattern text

end DateRule

/-! ### Converters -/

inductive Converter where
  /-- Not at all. -/
  | keep
  /-- Blanks at both ends are dropped on the way into the document. -/
  | strip
  /-- Markup is escaped on the way into the document. -/
  | escape
  | number (converter : NumberRule)
  | date (converter : DateRule)
deriving DecidableEq, Repr

namespace Converter

/-- The settings of a converter have to make sense; only patterns can fail to. -/
def check : Converter → Except Failure Unit
  | .date converter => converter.check
  | _ => .ok ()

def toDocument (converter : Converter) (text : List Char) : List Char :=
  match converter with
  | .keep => text
  | .strip => Text.trim text
  | .escape => Markup.escape text
  | .number converter => converter.toDocument text
  | .date converter => converter.toDocument text

def toLine (converter : Converter) (text : List Char) : List Char :=
  match converter with
  | .date converter => converter.toLine text
  | _ => text

end Converter

end FlatFile
