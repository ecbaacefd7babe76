/-
  FlatFile/Value/Table.lean
  =========================
  **The converters of all columns.**

  A column may have a converter of its own.  The values of the others are
  stripped of blanks at both ends and escaped on the way into the document, each
  if so asked, and left alone on the way back.  An unset column stays unset.
-/
import FlatFile.Value.Converter

namespace FlatFile

/-- The converters of the columns in order, and what is done to the values of a column
    without one. -/
structure ColumnConverters where
  converters : List (Option Converter)
  strip : Bool
  escape : Bool
deriving DecidableEq, Repr

namespace ColumnConverters

def converter? (table : ColumnConverters) (index : Nat) : Option Converter :=
  table.converters[index]?.join

/-- The value of a column without a converter as the document has it. -/
def unconverted (table : ColumnConverters) (text : List Char) : List Char :=
  let text := if table.strip then Text.trim text else text
  if table.escape then Markup.escape text else text

def toDocument (table : ColumnConverters) (index : Nat) (value : Option (List Char)) :
    Option (List Char) :=
  match table.converter? index with
  | some converter => value.map converter.toDocument
  | none => value.map table.unconverted

def toLine (table : ColumnConverters) (index : Nat) (value : Option (List Char)) :
    Option (List Char) :=
  match table.converter? index with
  | some converter => value.map converter.toLine
  | none => value

/-- The first converter whose settings make no sense is at fault. -/
def check (table : ColumnConverters) : Except Failure Unit :=
  (table.converters.filterMap id).forM Converter.check

end ColumnConverters

end FlatFile
