/-
  FlatFile/Document/Line.lean
  ===========================
  **The elements of a document, as text.**

  Everything a document consists of: the declaration and the tag of the root, a
  comment for each header line, an element for each further line, the end tag of
  the root.

  A column is written under its own name if it has one, else under the name of
  columns, to which its number is added where columns are attributes.  An element
  cannot carry an attribute twice, so on a line with column attributes a name
  that is already taken gives way: first to the numbered one, then to that with a
  further number at its end, the first that is free.
-/
import FlatFile.Column.Cut
import FlatFile.Document.Origin
import FlatFile.Document.Style
import FlatFile.Markup.Element
import FlatFile.Markup.Name
import FlatFile.Markup.NameSet
import FlatFile.Value.Table

namespace FlatFile

/-! ### Columns -/

/-- A column ready to be written: its number from 1, its name, and its value as the
    document has it. -/
structure WrittenColumn where
  number : Nat
  name : List Char
  value : List Char
deriving DecidableEq, Repr

/-- The attributes of a line element that are not columns. -/
def DocumentStyle.reservedNames (style : DocumentStyle) : List (List Char) :=
  (if style.lineNumbers then ["number".toList] else [])
    ++ (if style.rawLine then ["raw".toList] else [])

def declaresNamespace (name : List Char) : Bool := Text.startsWith "xmlns".toList name

/-- The name of columns with the number of one. -/
def DocumentStyle.numberedName (style : DocumentStyle) (number : Nat) : List Char :=
  style.columnName.toList ++ Text.decimal number

/-- The first of `base_k`, `base_(k+1)`, … that is not taken, looked for at most `tries`
    times. -/
def freeName (taken : Markup.NameSet) (base : List Char) : Nat → Nat → List Char
  | 0, _ => base
  | tries + 1, k =>
    let name := base ++ '_' :: Text.decimal k
    if taken.contains name then freeName taken base tries (k + 1) else name

/-- The name under which a column becomes an attribute. -/
def DocumentStyle.attributeName (style : DocumentStyle) (taken : Markup.NameSet)
    (column : WrittenColumn) : List Char :=
  if taken.contains column.name || declaresNamespace column.name then
    let numbered := style.numberedName column.number
    if taken.contains numbered then freeName taken numbered (taken.insertions + 1) 2
    else numbered
  else column.name

/-- The columns under names that are not taken, each by a name before it either. -/
def DocumentStyle.distinctNames (style : DocumentStyle) (taken : Markup.NameSet) :
    List WrittenColumn → List WrittenColumn
  | [] => []
  | column :: columns =>
    let name := style.attributeName taken column
    { column with name } :: style.distinctNames (taken.insert name) columns

/-! ### The parts of a document -/

/-- What the rendering of lines depends on. -/
structure Rendering where
  style : DocumentStyle
  layout : Option ColumnLayout
  converters : ColumnConverters
  /-- The names of the columns, where they have one. -/
  columnNames : List (Option (List Char))

namespace Rendering

/-- An empty value of a column is left out. -/
def skips (rendering : Rendering) (name : Option (List Char)) (value : List Char) : Bool :=
  value.isEmpty
    && (rendering.style.skipEmpty || (rendering.style.skipEmptyUnnamed && name.isNone))

/-- A column of a line, counted from zero, as it is to be written under its name if it has
    one; none if it is unset or left out. -/
def writtenColumn? (rendering : Rendering) (index : Nat) (name : Option (List Char))
    (column : Option (List Char)) : Option WrittenColumn :=
  match rendering.converters.toDocument index column with
  | none => none
  | some value =>
    if rendering.skips name value then none
    else
      let fallback :=
        if rendering.style.attributes then rendering.style.numberedName (index + 1)
        else rendering.style.columnName.toList
      some ⟨index + 1, name.getD fallback, value⟩

/-- The columns of a line that are written, from the column `index` and its name on. -/
def writtenFrom (rendering : Rendering) (index : Nat) :
    List (Option (List Char)) → Columns → List WrittenColumn
  | _, [] => []
  | names, column :: columns =>
    (rendering.writtenColumn? index names.head?.join column).toList
      ++ rendering.writtenFrom (index + 1) names.tail columns

/-- The columns of a line that are written. -/
def writtenColumns (rendering : Rendering) (columns : Columns) : List WrittenColumn :=
  let written := rendering.writtenFrom 0 rendering.columnNames columns
  if rendering.style.attributes then
    rendering.style.distinctNames (.ofList rendering.style.reservedNames) written
  else written

def indent : List Char := [' ', ' ']

/-- The number of something as an attribute. -/
def numberAttribute (number : Nat) : Markup.Attribute :=
  .ofText "number".toList (Text.decimal number)

/-- A column as an element of its own. -/
def columnElement (rendering : Rendering) (column : WrittenColumn) : List Char :=
  let attributes := if rendering.style.columnNumbers then [numberAttribute column.number] else []
  let element :=
    if column.value.isEmpty then Markup.emptyTag column.name attributes
    else Markup.startTag column.name attributes ++ column.value ++ Markup.endTag column.name
  indent ++ indent ++ element ++ ['\n']

/-- The attributes of a line element that are not columns. -/
def lineAttributes (rendering : Rendering) (number : Nat) (line : List Char) :
    List Markup.Attribute :=
  (if rendering.style.lineNumbers then [numberAttribute number] else [])
    ++ (if rendering.style.rawLine then [.ofText "raw".toList line] else [])

/-- The element of a line that is given with its columns. -/
def columnsElement (rendering : Rendering) (attributes : List Markup.Attribute)
    (columns : List WrittenColumn) : List Char :=
  let name := rendering.style.lineName.toList
  if rendering.style.attributes then
    Markup.emptyTag name (attributes ++ columns.map fun column => ⟨column.name, column.value⟩)
  else if columns.isEmpty then Markup.emptyTag name attributes
  else
    Markup.startTag name attributes ++ '\n' :: columns.flatMap rendering.columnElement
      ++ indent ++ Markup.endTag name

/-- The element of a line without a layout. -/
def verbatimElement (rendering : Rendering) (attributes : List Markup.Attribute)
    (line : List Char) : List Char :=
  let name := rendering.style.lineName.toList
  if line.isEmpty then Markup.emptyTag name attributes
  else Markup.startTag name attributes ++ Markup.escape line ++ Markup.endTag name

/-- **The element of a line**, on a line of its own. -/
def line (rendering : Rendering) (number : Nat) (line : List Char) : Except Failure (List Char) :=
  let attributes := rendering.lineAttributes number line
  let framed (element : List Char) : List Char := indent ++ element ++ ['\n']
  match rendering.layout with
  | none => .ok (framed (rendering.verbatimElement attributes line))
  | some layout =>
    match layout.columns line with
    | .error failure => .error failure
    | .ok columns =>
      let written := rendering.writtenColumns (columns.getD [])
      .ok (framed (rendering.columnsElement attributes written))

/-- **The declaration and the tag of the root.** -/
def prologue (rendering : Rendering) (origin : Origin) (charset : Charset) : List Char :=
  let declaration :=
    if rendering.style.declaration then Markup.declaration charset.name ++ ['\n'] else []
  let attributes : List Markup.Attribute :=
    [.ofText "name".toList origin.name.toList, .ofText "location".toList origin.location.toList]
      ++ (rendering.style.xmlNamespace.map fun uri =>
        .ofText "xmlns".toList uri.toList).toList
  declaration ++ Markup.startTag rendering.style.rootName.toList attributes ++ ['\n']

/-- The comment of a header line, on a line of its own. -/
def headerComment (line : List Char) : List Char :=
  indent ++ Markup.comment (Markup.commentBody line) ++ ['\n']

/-- The end tag of the root. -/
def footer (rendering : Rendering) : List Char := Markup.endTag rendering.style.rootName.toList

/-- The names of the columns that a header line gives. -/
def namesFrom (rendering : Rendering) (line : List Char) :
    Except Failure (List (Option (List Char))) :=
  match rendering.layout with
  | none => .ok rendering.columnNames
  | some layout =>
    match layout.columns line with
    | .error failure => .error failure
    | .ok columns => .ok ((columns.getD []).map fun column => column.bind Markup.nameOf?)

end Rendering

end FlatFile
