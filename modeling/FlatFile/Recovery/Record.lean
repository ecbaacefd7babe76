/-
  FlatFile/Recovery/Record.lean
  =============================
  **What a line element says, gathered piece by piece.**

  A line is recovered either from the text of its element or from columns, found
  in its attributes and in the elements inside it.  A column has a position: that
  of its number, that of its name, or else the one after the column before it.
  Positions are 64-bit words, and the one after the largest is zero.  A column
  met again replaces the one before.  Columns are kept in the order of their
  positions, in which they mostly come.

  Values are raw: their references are resolved when the line is composed.
-/
import FlatFile.Charset.Encoder
import FlatFile.Column.Compose
import FlatFile.Document.Style
import FlatFile.Markup.Escape
import FlatFile.Markup.Event
import FlatFile.Markup.Name
import FlatFile.Stream.Growing
import FlatFile.Text.Numeral
import FlatFile.Value.Table

namespace FlatFile

/-! ### Records -/

/-- The content of a line element so far. -/
structure Record where
  text : Growing Char := {}
  /-- The columns by position, the greatest first. -/
  columns : List (UInt64 × List Char) := []
  /-- The position of a column that has none of its own. -/
  following : UInt64 := 0
deriving DecidableEq, Repr

namespace Record

def addText (record : Record) (raw : List Char) : Record :=
  { record with text := record.text.add raw }

def placeColumn (position : UInt64) (raw : List Char) :
    List (UInt64 × List Char) → List (UInt64 × List Char)
  | [] => [(position, raw)]
  | column :: columns =>
    if column.1 < position then (position, raw) :: column :: columns
    else if column.1 = position then (position, raw) :: columns
    else column :: placeColumn position raw columns

/-- The record with a column, at its position or at the following one. -/
def addColumn (record : Record) (position : Option UInt64) (raw : List Char) : Record :=
  let position := position.getD record.following
  { record with
    columns := placeColumn position raw record.columns
    following := position + 1 }

/-- The number of columns up to the last one: its position and one more, as a word. -/
def width (record : Record) : Nat :=
  match record.columns with
  | [] => 0
  | column :: _ => (column.1 + 1).toNat

/-- The raw values at the positions below a number, none where there is no column, before
    those of the positions from there on. -/
def slotsBelow : Nat → List (UInt64 × List Char) → List (Option (List Char)) →
    List (Option (List Char))
  | 0, _, slots => slots
  | position + 1, [], slots => slotsBelow position [] (none :: slots)
  | position + 1, column :: columns, slots =>
    if column.1.toNat = position then slotsBelow position columns (some column.2 :: slots)
    else slotsBelow position (column :: columns) (none :: slots)

/-- The raw values of all positions up to the last column, none where there is no
    column. -/
def slots (record : Record) : List (Option (List Char)) :=
  slotsBelow record.width record.columns []

end Record

/-! ### Positions -/

/-- What the recovery of lines depends on. -/
structure Recovery where
  style : DocumentStyle
  layout : Option ColumnLayout
  converters : ColumnConverters
  /-- The charset of the lines. -/
  charset : Charset
  terminator : Option Char

namespace Recovery

/-- The names of the columns, where they have one. -/
def columnNames (recovery : Recovery) : List (Option (List Char)) :=
  recovery.style.columnNames.map fun name => Markup.nameOf? name.toList

/-- The position before a number that counts from 1. -/
def positionOfNumber? (text : List Char) : Option UInt64 :=
  match Text.word? text with
  | some (n + 1) => some (UInt64.ofNat n)
  | _ => none

/-- The position of a column by its name: the first one configured, or the number after
    the name of columns. -/
def positionOfName? (recovery : Recovery) (name : List Char) : Option UInt64 :=
  match recovery.columnNames.idxOf? (some name) with
  | some index => some (UInt64.ofNat index)
  | none => (Text.after? recovery.style.columnName.toList name).bind positionOfNumber?

/-- The position of a column element: its first usable number, or that of its name. -/
def positionOfTag? (recovery : Recovery) (tag : Markup.Tag) : Option UInt64 :=
  let numbers := tag.attributes.filterMap fun (key, value) =>
    if key = "number".toList then positionOfNumber? (Text.trim value) else none
  match numbers with
  | position :: _ => some position
  | [] => recovery.positionOfName? (Markup.localName tag.name)

/-- An attribute of a line element that is no column. -/
def isReserved (key : List Char) : Bool :=
  key == "number".toList || key == "raw".toList || Text.startsWith "xmlns".toList key

/-- The record that the tag of a line element starts: its attributes are columns. -/
def opened (recovery : Recovery) (tag : Markup.Tag) : Record :=
  (tag.attributes.filter fun (key, _) => !isReserved key).foldl
    (fun record (key, value) => record.addColumn (recovery.positionOfName? key) value) {}

/-! ### Lines -/

/-- The value of a column as the line has it, empty if the record lacks it. -/
def value (recovery : Recovery) (slot : Option (List Char)) (position : Nat) :
    Except ReferenceFault (List Char) :=
  match slot with
  | none => .ok ((recovery.converters.toLine position none).getD [])
  | some raw =>
    (Markup.unescape raw).map fun text =>
      (recovery.converters.toLine position (some text)).getD []

/-- **The line of a record.** -/
def line (recovery : Recovery) (record : Record) : Except ReferenceFault (List Char) :=
  if record.columns.isEmpty then Markup.unescape record.text.toList
  else
    (record.slots.zipIdx.mapM fun (slot, position) => recovery.value slot position).map
      (ColumnLayout.compose recovery.layout)

variable [MultibyteCodecs]

/-- The bytes of a line and its terminator. -/
def lineBytes (recovery : Recovery) (line : List Char) : List UInt8 :=
  recovery.charset.encode (line ++ [recovery.terminator.getD '\n'])

end Recovery

end FlatFile
