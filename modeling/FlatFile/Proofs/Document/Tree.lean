/-
  FlatFile/Proofs/Document/Tree.lean
  ==================================
  **The document of a file as a tree.**

  What a document says is given here without a word of markup: which attributes an
  element has, which columns of a line are shown and under which names, what stands
  between two tags.  Values are the texts themselves, not their escaped form.

  Below the definitions stands that the text written for a line and for the root is the
  text of these trees (`line_eq_render`, `rootNode_render`), for values that are escaped
  and not converted otherwise.
-/
import FlatFile.Proofs.Document.Names
import FlatFile.Proofs.Document.Whole
import FlatFile.Proofs.Markup.Tree

namespace FlatFile

open Markup

namespace Rendering

/-! ### What a document says -/

/-- The columns of a line under the layout, if there are any. -/
def extracted (rendering : Rendering) (line : List Char) : Columns :=
  match rendering.layout with
  | none => []
  | some layout =>
    match layout.columns line with
    | .ok (some columns) => columns
    | _ => []

/-- The name of a column, counted from zero, that has none of its own. -/
def fallbackName (rendering : Rendering) (index : Nat) : List Char :=
  if rendering.style.attributes then rendering.style.numberedName (index + 1)
  else rendering.style.columnName.toList

/-- A value as the document shows it. -/
def shownValue (rendering : Rendering) (text : List Char) : List Char :=
  if rendering.converters.strip then Text.trim text else text

/-- A column, counted from zero, as the document shows it: its number, its name and its value;
    none if it is unset or left out. -/
def shownColumn? (rendering : Rendering) (index : Nat) (column : Option (List Char)) :
    Option WrittenColumn :=
  column.bind fun text =>
    let name := rendering.columnNames[index]?.join
    if rendering.shownValue text = []
        ∧ (rendering.style.skipEmpty ∨ rendering.style.skipEmptyUnnamed ∧ name = none) then none
    else some ⟨index + 1, name.getD (rendering.fallbackName index), rendering.shownValue text⟩

/-- The columns that a document shows of a line, in their order.  As attributes they give way
    where a name is taken. -/
def shownColumns (rendering : Rendering) (columns : Columns) : List WrittenColumn :=
  let shown := columns.zipIdx.filterMap fun (column, index) => rendering.shownColumn? index column
  if rendering.style.attributes then
    rendering.style.distinctNames (.ofList rendering.style.reservedNames) shown
  else shown

/-- The number of something as an attribute with its meaning. -/
def numberPair (number : Nat) : List Char × List Char := ("number".toList, Text.decimal number)

/-- What a line element says of its line apart from the columns. -/
def lineFacts (rendering : Rendering) (number : Nat) (line : List Char) :
    List (List Char × List Char) :=
  (if rendering.style.lineNumbers then [numberPair number] else [])
    ++ (if rendering.style.rawLine then [("raw".toList, line)] else [])

/-- A column as an element. -/
def columnNode (rendering : Rendering) (column : WrittenColumn) : Node :=
  .element column.name (if rendering.style.columnNumbers then [numberPair column.number] else [])
    (textNodes column.value)

/-- **A line as an element**: its text without a layout, else its columns, as attributes or as
    elements. -/
def lineNode (rendering : Rendering) (number : Nat) (line : List Char) : Node :=
  let name := rendering.style.lineName.toList
  let facts := rendering.lineFacts number line
  let columns := rendering.shownColumns (rendering.extracted line)
  if rendering.layout.isNone then .element name facts (textNodes line)
  else if rendering.style.attributes then
    .element name (facts ++ columns.map fun column => (column.name, column.value)) []
  else if columns = [] then .element name facts []
  else .element name facts (laidOut 1 (columns.map rendering.columnNode))

/-- The elements of the lines after the header, of which `before` stand before these. -/
def lineNodes (rendering : Rendering) (before : Nat) (lines : List (List Char)) : List Node :=
  (lines.zipIdx (before + 1)).map fun (line, number) => rendering.lineNode number line

/-- What the root says of the file. -/
def rootFacts (rendering : Rendering) (origin : Origin) : List (List Char × List Char) :=
  [("name".toList, origin.name.toList), ("location".toList, origin.location.toList)]
    ++ (rendering.style.xmlNamespace.map fun uri => ("xmlns".toList, uri.toList)).toList

/-- **The root element**: a comment for each header line, then an element for each further line. -/
def rootNode (rendering : Rendering) (origin : Origin) (header body : List (List Char)) : Node :=
  .element rendering.style.rootName.toList (rendering.rootFacts origin)
    (laidOut 0 ((header.map fun line => .comment (commentBody line)) ++ rendering.lineNodes 0 body))

/-- The names of the columns that a line gives, or those at hand. -/
def namesOf (rendering : Rendering) : Option (List Char) → List (Option (List Char))
  | none => rendering.columnNames
  | some line =>
    if rendering.layout.isNone then rendering.columnNames
    else (rendering.extracted line).map fun column => column.bind nameOf?

/-- The rendering after the header, if the file goes as far as the line with the names. -/
def named (rendering : Rendering) (header : List (List Char)) : Rendering :=
  { rendering with
    columnNames := rendering.namesOf (rendering.style.namesLine.bind fun number =>
      if number = 0 then none else header[number - 1]?) }

/-- **The document**: what stands before the root is a line feed after the declaration. -/
def documentNodes (rendering : Rendering) (origin : Origin) (header body : List (List Char)) :
    List Node :=
  (if rendering.style.declaration then [.text ['\n']] else [])
    ++ [rendering.rootNode origin header body]

/-! ### The columns of a line -/

/-- Values go into the document escaped and not converted otherwise. -/
structure Faithful (rendering : Rendering) : Prop where
  unconverted : ∀ index, rendering.converters.converter? index = none
  escaping : rendering.converters.escape = true

/-- A column with its value as it is written. -/
def escapedColumn (column : WrittenColumn) : WrittenColumn :=
  { column with value := escape column.value }

variable {rendering : Rendering}

theorem writtenColumn?_eq (faithful : rendering.Faithful) (index : Nat)
    (column : Option (List Char)) :
    rendering.writtenColumn? index rendering.columnNames[index]?.join column =
      (rendering.shownColumn? index column).map escapedColumn := by
  unfold writtenColumn? shownColumn? ColumnConverters.toDocument
  rw [faithful.unconverted index]
  cases column with
  | none => rfl
  | some text =>
    have value : rendering.converters.unconverted text = escape (rendering.shownValue text) := by
      rw [ColumnConverters.unconverted, faithful.escaping, if_pos rfl, shownValue]
    simp only [Option.map_some, Option.bind_some, value, skips, isEmpty_escape]
    generalize rendering.shownValue text = value
    by_cases left : value = [] ∧ (rendering.style.skipEmpty
        ∨ rendering.style.skipEmptyUnnamed ∧ rendering.columnNames[index]?.join = none)
    · have skipped : (value.isEmpty && (rendering.style.skipEmpty
          || (rendering.style.skipEmptyUnnamed
            && rendering.columnNames[index]?.join.isNone))) = true := by
        simpa using left
      rw [if_pos left, if_pos skipped]
      rfl
    · have kept : ¬ (value.isEmpty && (rendering.style.skipEmpty
          || (rendering.style.skipEmptyUnnamed
            && rendering.columnNames[index]?.join.isNone))) = true := by
        simpa using left
      rw [if_neg left, if_neg kept]
      rfl

theorem shownColumn?_eq_some {index : Nat} {column : Option (List Char)} {shown : WrittenColumn}
    (h : rendering.shownColumn? index column = some shown) :
    ∃ text, column = some text ∧ shown = ⟨index + 1,
      rendering.columnNames[index]?.join.getD (rendering.fallbackName index),
      rendering.shownValue text⟩ := by
  rcases Option.bind_eq_some_iff.mp h with ⟨text, rfl, shows⟩
  dsimp only at shows
  split at shows
  · cases shows
  · cases shows
    exact ⟨text, rfl, rfl⟩

theorem writtenFrom_eq (faithful : rendering.Faithful) (index : Nat) (columns : Columns) :
    rendering.writtenFrom index (rendering.columnNames.drop index) columns =
      ((columns.zipIdx index).filterMap fun (column, index) =>
        rendering.shownColumn? index column).map escapedColumn := by
  induction columns generalizing index with
  | nil => rfl
  | cons column columns ih =>
    rw [writtenFrom, List.head?_drop, List.tail_drop, writtenColumn?_eq faithful, ih,
      List.zipIdx_cons]
    cases shown : rendering.shownColumn? index column with
    | none => simp [shown]
    | some shown' => simp [shown]

theorem distinctNames_escaped (style : DocumentStyle) (taken : NameSet)
    (columns : List WrittenColumn) :
    style.distinctNames taken (columns.map escapedColumn) =
      (style.distinctNames taken columns).map escapedColumn := by
  induction columns generalizing taken with
  | nil => rfl
  | cons column columns ih =>
    rw [List.map_cons, DocumentStyle.distinctNames, DocumentStyle.distinctNames, ih]
    rfl

theorem writtenColumns_eq (faithful : rendering.Faithful) (columns : Columns) :
    rendering.writtenColumns columns = (rendering.shownColumns columns).map escapedColumn := by
  have all := writtenFrom_eq faithful 0 columns
  rw [List.drop_zero] at all
  rw [writtenColumns, shownColumns, all]
  split
  · exact distinctNames_escaped _ _ _
  · rfl

/-! ### The text of a line -/

theorem written_lineFacts (rendering : Rendering) (number : Nat) (line : List Char) :
    rendering.lineAttributes number line = written (rendering.lineFacts number line) := by
  unfold lineAttributes lineFacts written
  rw [List.map_append]
  congr 1
  · split <;> rfl
  · split <;> rfl

theorem columnElement_eq (rendering : Rendering) (column : WrittenColumn) :
    rendering.columnElement (escapedColumn column) =
      indent ++ indent ++ (rendering.columnNode column).render ++ ['\n'] := by
  have facts : (if rendering.style.columnNumbers then [numberAttribute column.number] else []) =
      written (if rendering.style.columnNumbers then [numberPair column.number] else []) := by
    split <;> rfl
  have value : (escapedColumn column).value = escape column.value := rfl
  unfold columnElement columnNode
  rw [Node.render, render_textNodes, value, isEmpty_escape]
  simp only [escapedColumn, facts]
  cases column.value with
  | nil => rfl
  | cons c text => simp [textNodes]

theorem lineFeed_flatMap {α : Type} (parts : List α) (text : α → List Char) :
    '\n' :: parts.flatMap (fun part => text part ++ ['\n']) =
      parts.flatMap (fun part => '\n' :: text part) ++ ['\n'] := by
  induction parts with
  | nil => rfl
  | cons part parts ih =>
    simp only [List.flatMap_cons, List.append_assoc, List.cons_append, List.nil_append]
    rw [ih]

theorem columnElements_eq (rendering : Rendering) (columns : List WrittenColumn) :
    '\n' :: (columns.map escapedColumn).flatMap rendering.columnElement ++ indent =
      render (laidOut 1 (columns.map rendering.columnNode)) := by
  have elements : (columns.map escapedColumn).flatMap rendering.columnElement =
      columns.flatMap fun column =>
        (indent ++ indent ++ (rendering.columnNode column).render) ++ ['\n'] := by
    rw [List.flatMap_map]
    exact congrArg (columns.flatMap ·) (funext fun column => columnElement_eq rendering column)
  rw [elements, lineFeed_flatMap, render_laidOut, List.flatMap_map, List.append_assoc]
  rfl

theorem columnsElement_eq (faithful : rendering.Faithful) (number : Nat) (line : List Char)
    (some_layout : rendering.layout.isNone = false) :
    rendering.columnsElement (rendering.lineAttributes number line)
        (rendering.writtenColumns (rendering.extracted line)) =
      (rendering.lineNode number line).render := by
  rw [writtenColumns_eq faithful, written_lineFacts]
  unfold columnsElement lineNode
  simp only [some_layout, Bool.false_eq_true, if_false]
  by_cases attributes : rendering.style.attributes = true
  · rw [if_pos attributes, if_pos attributes, Node.render, List.isEmpty_nil, if_pos rfl]
    simp [written, Attribute.ofText, escapedColumn, Function.comp_def]
  · rw [if_neg attributes, if_neg attributes]
    generalize rendering.shownColumns (rendering.extracted line) = columns
    cases columns with
    | nil => rfl
    | cons column columns =>
      have content := columnElements_eq rendering (column :: columns)
      have filled : (laidOut 1 ((column :: columns).map rendering.columnNode)).isEmpty = false :=
        rfl
      rw [if_neg (by simp), if_neg (by simp), Node.render, filled, if_neg (by simp), ← content]
      simp [List.append_assoc]

theorem extracted_eq {chosen : ColumnLayout} (layout : rendering.layout = some chosen)
    {line : List Char} {columns : Option Columns} (divided : chosen.columns line = .ok columns) :
    rendering.extracted line = columns.getD [] := by
  unfold extracted
  rw [layout]
  simp only [divided]
  cases columns with
  | none => rfl
  | some columns => rfl

/-- **The text of a line is that of its element**, on a line of its own. -/
theorem line_eq_render (faithful : rendering.Faithful) {number : Nat} {line element : List Char}
    (h : rendering.line number line = .ok element) :
    element = indent ++ (rendering.lineNode number line).render ++ ['\n'] := by
  obtain ⟨_, rfl, ⟨layout, rfl⟩ | ⟨chosen, columns, layout, divided, rfl⟩⟩ := element_of_line h
  · have verbatim : rendering.verbatimElement (rendering.lineAttributes number line) line =
        (rendering.lineNode number line).render := by
      unfold verbatimElement lineNode
      rw [layout, Option.isNone_none, if_pos rfl, Node.render, written_lineFacts, render_textNodes]
      cases line with
      | nil => rfl
      | cons c line => rfl
    rw [verbatim]
  · have divides : rendering.layout.isNone = false := by
      rw [layout]
      rfl
    rw [← extracted_eq layout divided, columnsElement_eq faithful number line divides]

theorem elements_eq_render (faithful : rendering.Faithful) {before : Nat}
    {lines elements : List (List Char)} (h : rendering.elements before lines = .ok elements) :
    elements =
      (rendering.lineNodes before lines).map fun node => indent ++ node.render ++ ['\n'] := by
  induction lines generalizing before elements with
  | nil =>
    cases h
    rfl
  | cons line lines ih =>
    rw [Rendering.elements] at h
    obtain ⟨element, first, h⟩ := Assembly.bind_eq_ok h
    obtain ⟨others, rest, h⟩ := Assembly.bind_eq_ok h
    cases h
    rw [line_eq_render faithful first, ih rest]
    rfl

/-! ### The text of a document -/

theorem prologue_eq (rendering : Rendering) (origin : Origin) (charset : Charset) :
    rendering.prologue origin charset =
      (if rendering.style.declaration then declaration charset.name ++ ['\n'] else [])
        ++ startTag rendering.style.rootName.toList (written (rendering.rootFacts origin))
        ++ ['\n'] := by
  have facts : written (rendering.rootFacts origin) =
      [.ofText "name".toList origin.name.toList, .ofText "location".toList origin.location.toList]
        ++ (rendering.style.xmlNamespace.map fun uri =>
          Attribute.ofText "xmlns".toList uri.toList).toList := by
    unfold rootFacts written
    cases rendering.style.xmlNamespace with
    | none => rfl
    | some uri => rfl
  rw [facts]
  rfl

/-- A document begins with the first character of a piece of markup. -/
theorem prologue_cons (rendering : Rendering) (origin : Origin) (charset : Charset) :
    ∃ rest, rendering.prologue origin charset = '<' :: rest := by
  rw [prologue_eq]
  split
  · exact ⟨_, rfl⟩
  · exact ⟨_, rfl⟩

/-- The lines of a root element: what stands between its tags. -/
theorem render_rootContent (rendering : Rendering) (header body : List (List Char)) :
    render (laidOut 0 ((header.map fun line => .comment (commentBody line))
        ++ rendering.lineNodes 0 body)) =
      '\n' :: ((header.map headerComment).flatten
        ++ ((rendering.lineNodes 0 body).map fun node => indent ++ node.render ++ ['\n']).flatten) := by
  have parts : (header.map headerComment).flatten
      ++ ((rendering.lineNodes 0 body).map fun node => indent ++ node.render ++ ['\n']).flatten =
      ((header.map fun line => Node.comment (commentBody line))
        ++ rendering.lineNodes 0 body).flatMap fun node => (indent ++ node.render) ++ ['\n'] := by
    rw [List.flatMap_append, ← List.flatMap_def, List.flatMap_map, ← List.flatMap_def]
    rfl
  rw [parts, lineFeed_flatMap, render_laidOut]
  rfl

/-- The text of a root element whose parts stand on lines of their own. -/
theorem rootNode_render (rendering : Rendering) (origin : Origin) (header body : List (List Char)) :
    (rendering.rootNode origin header body).render =
      startTag rendering.style.rootName.toList (written (rendering.rootFacts origin))
        ++ '\n' :: ((header.map headerComment).flatten
          ++ ((rendering.lineNodes 0 body).map fun node => indent ++ node.render ++ ['\n']).flatten)
        ++ rendering.footer := by
  have filled : (laidOut 0 ((header.map fun line => Node.comment (commentBody line))
      ++ rendering.lineNodes 0 body)).isEmpty = false := by
    simp [laidOut]
  rw [rootNode, Node.render, filled, if_neg (by simp), render_rootContent]
  rfl

end Rendering

end FlatFile
