/-
  FlatFile/Document/Style.lean
  ============================
  **How a document presents the lines of a file.**

  The style names the elements, says which attributes they carry and which empty
  columns are left out, how many lines of the file are its header, and in which
  charset the document is written.
-/
import FlatFile.Charset.Label
import FlatFile.Failure

namespace FlatFile

structure DocumentStyle where
  rootName : String := "DocElement"
  lineName : String := "Line"
  /-- The name of column elements, and the start of the name of a column without one. -/
  columnName : String := "Col"
  xmlNamespace : Option String := none
  declaration : Bool := true
  lineNumbers : Bool := true
  columnNumbers : Bool := true
  /-- Line elements carry the line as an attribute too. -/
  rawLine : Bool := false
  /-- Columns are attributes of the line element rather than elements in it. -/
  attributes : Bool := false
  /-- Empty columns are left out if they have no name. -/
  skipEmptyUnnamed : Bool := false
  /-- Empty columns are left out. -/
  skipEmpty : Bool := false
  /-- The lines before the first one with columns. -/
  headerLines : Nat := 0
  /-- The header line, from 1, whose columns are the names of the columns. -/
  namesLine : Option Nat := none
  columnNames : List String := []
  /-- The label of the charset of the document. -/
  charset : Option String := none
deriving DecidableEq, Repr

/-- The charset a label means, UTF-8 without one. -/
def Charset.resolve? (label : Option String) : Except Failure Charset :=
  match label with
  | none => .ok .utf8
  | some label =>
    match Charset.ofLabel? label.toList with
    | some charset => .ok charset
    | none => .error (.unknownCharset label)

/-- The charset in which the document is written. -/
def DocumentStyle.outputCharset? (style : DocumentStyle) : Except Failure Charset :=
  (Charset.resolve? style.charset).map Charset.output

end FlatFile
