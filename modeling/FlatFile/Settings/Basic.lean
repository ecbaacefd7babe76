/-
  FlatFile/Settings/Basic.lean
  ============================
  **The settings of a conversion.**

  Settings say how lines are divided into columns, how the document presents
  them, which charsets are in use, and how values are converted.  Every setting
  has a default.  Counts and widths are words of 64 bits.
-/
import FlatFile.Column.Layout
import FlatFile.Document.Style
import FlatFile.Line.Basic
import FlatFile.Value.Table

namespace FlatFile

/-- The kinds of layout that settings can select. -/
inductive LayoutKind where
  | fixed
  | delimited
  | variable
  | variableCustom
deriving DecidableEq, Repr

namespace LayoutKind

def word : LayoutKind → String
  | .fixed => "fixed"
  | .delimited => "delimited"
  | .variable => "variable"
  | .variableCustom => "variable-custom"

def all : List LayoutKind := [.fixed, .delimited, .variable, .variableCustom]

def ofWord? (word : String) : Option LayoutKind := all.find? fun kind => kind.word == word

/-- The kind of layout that a text names; blanks around it and the case of its ASCII
    letters are of no account. -/
def named? (text : String) : Except Failure LayoutKind :=
  let word := String.ofList ((Text.trim text.toList).map Char.toLower)
  match ofWord? word with
  | some kind => .ok kind
  | none => .error (.configuration (.layoutKind word))

end LayoutKind

structure Settings where
  /-- Without a layout a line is taken as it is. -/
  layout : Option LayoutKind := none
  columnWidths : List UInt64 := []
  separator : Option String := none
  variableLayout : Option BranchingLayout := none
  columnNames : List String := []
  /-- The header line, from 1, that gives the names of the columns. -/
  namesFromHeaderLine : Option UInt64 := none
  headerLineCount : UInt64 := 0
  docElementName : String := "DocElement"
  lineElementName : String := "Line"
  columnElementName : String := "Col"
  namespaceUri : Option String := none
  emitXmlDeclaration : Bool := true
  emitLineNumbers : Bool := true
  emitColumnNumbers : Bool := true
  emitRawLine : Bool := false
  columnsAsAttributes : Bool := false
  skipEmptyDefaultNamedColumns : Bool := false
  skipAnyEmptyColumn : Bool := false
  defaultStrip : Bool := false
  defaultEscape : Bool := true
  /-- The charset of the lines. -/
  encoding : Option String := none
  /-- The charset of the document; that of the lines if absent. -/
  outputEncoding : Option String := none
  lineTerminator : Option String := none
  converters : List (Option Converter) := []
deriving DecidableEq

namespace Settings

/-- The presentation of the document, in the charset `charset`. -/
def styleIn (settings : Settings) (charset : Option String) : DocumentStyle where
  rootName := settings.docElementName
  lineName := settings.lineElementName
  columnName := settings.columnElementName
  xmlNamespace := settings.namespaceUri
  declaration := settings.emitXmlDeclaration
  lineNumbers := settings.emitLineNumbers
  columnNumbers := settings.emitColumnNumbers
  rawLine := settings.emitRawLine
  attributes := settings.columnsAsAttributes
  skipEmptyUnnamed := settings.skipEmptyDefaultNamedColumns
  skipEmpty := settings.skipAnyEmptyColumn
  headerLines := settings.headerLineCount.toNat
  namesLine := settings.namesFromHeaderLine.map UInt64.toNat
  columnNames := settings.columnNames
  charset := charset

def style (settings : Settings) : DocumentStyle :=
  settings.styleIn (settings.outputEncoding.or settings.encoding)

def columnConverters (settings : Settings) : ColumnConverters :=
  ⟨settings.converters, settings.defaultStrip, settings.defaultEscape⟩

/-- The names of the columns have to come from one of the header lines. -/
def checkNamesLine (settings : Settings) : Except Failure Unit :=
  match settings.namesFromHeaderLine with
  | none => .ok ()
  | some line =>
    if line = 0 ∨ settings.headerLineCount < line then
      .error (.configuration (.namesLineOutside line.toNat settings.headerLineCount.toNat))
    else .ok ()

/-- The layout that the settings select, which needs settings of its own. -/
def columnLayout (settings : Settings) (custom : Option LineSplitter) :
    Except Failure (Option ColumnLayout) :=
  match settings.layout with
  | none => .ok none
  | some .fixed =>
    if settings.columnWidths.isEmpty then .error (.configuration .columnWidthsMissing)
    else .ok (some (.fixed (settings.columnWidths.map UInt64.toNat)))
  | some .delimited =>
    match settings.separator with
    | some separator => .ok (some (.delimited separator.toList))
    | none => .error (.configuration .separatorMissing)
  | some .variable =>
    match settings.variableLayout with
    | some layout => .ok (some (.variable layout))
    | none => .error (.configuration .variableLayoutMissing)
  | some .variableCustom =>
    match custom with
    | some splitter => .ok (some (.custom splitter))
    | none => .error (.configuration .customSplitterMissing)

end Settings

end FlatFile
