/-
  FlatFile/Proofs/Document/Attributes.lean
  ========================================
  **The attributes of a line element.**

  Where columns are attributes, a line element has those of the line, then one for each
  column that is written.  `AttributeElement` says what is right about them.  It holds of
  every element that a document can come to write (`attributeElement_wrap`), since no call
  for a chunk changes the style, and the names that a header gives are names.
-/
import FlatFile.Charset.AsciiOnly
import FlatFile.Proofs.Document.Reading
import FlatFile.Proofs.Document.Steps

namespace FlatFile

open Markup

/-! ### The columns that are written -/

namespace Rendering

variable {rendering : Rendering}

/-- The columns of a line that are written, each under its own name. -/
def ownColumns (rendering : Rendering) (line : List Char) : List WrittenColumn :=
  rendering.writtenFrom 0 rendering.columnNames (rendering.extracted line)

/-- The columns of a line that are written, each under the name it has on this line. -/
def columnsOf (rendering : Rendering) (line : List Char) : List WrittenColumn :=
  rendering.writtenColumns (rendering.extracted line)

/-- The attributes of a line element: those of the line, then the columns. -/
def elementAttributes (rendering : Rendering) (number : Nat) (line : List Char) :
    List Attribute :=
  rendering.lineAttributes number line
    ++ (rendering.columnsOf line).map fun column => ⟨column.name, column.value⟩

theorem eq_of_mem_writtenFrom {index : Nat} {names : List (Option (List Char))} {columns : Columns}
    {column : WrittenColumn} (inside : column ∈ rendering.writtenFrom index names columns) :
    ∃ i, column.number = index + i + 1
      ∧ column.name = names[i]?.join.getD (rendering.fallbackName (index + i)) := by
  induction columns generalizing index names with
  | nil => cases inside
  | cons first columns ih =>
    rw [writtenFrom] at inside
    rcases List.mem_append.mp inside with here | later
    · unfold writtenColumn? at here
      rw [Option.mem_toList] at here
      split at here
      · cases here
      · split at here
        · cases here
        · cases here
          exact ⟨0, rfl, by rw [List.head?_eq_getElem?]; rfl⟩
    · obtain ⟨i, number, name⟩ := ih later
      rw [List.getElem?_tail] at name
      refine ⟨i + 1, by omega, ?_⟩
      rw [name, Nat.add_assoc, Nat.add_comm 1 i]

theorem renames_columnsOf (attributes : rendering.style.attributes = true) (line : List Char) :
    rendering.style.Renames rendering.style.reservedNames (rendering.ownColumns line)
      (rendering.columnsOf line) := by
  unfold columnsOf writtenColumns
  rw [if_pos attributes]
  exact rendering.style.renames_distinctNames (NameSet.holds_ofList _) _

theorem lineAttributes_names (rendering : Rendering) (number : Nat) (line : List Char) :
    (rendering.lineAttributes number line).map Attribute.name = rendering.style.reservedNames := by
  rw [written_lineFacts, written, List.map_map]
  exact rendering.lineFacts_keys number line

/-! ### Line elements -/

/-- The text of a line element starts with a tag of its attributes. -/
def HasTag (rendering : Rendering) (number : Nat) (line text : List Char) : Prop :=
  ∃ closing, (['>'] <+: closing ∨ ['/', '>'] <+: closing)
    ∧ text = indent ++ '<' :: renderHead rendering.style.lineName.toList
      (rendering.elementAttributes number line) ++ closing

/-- **What is right about a line element whose columns are attributes.** -/
structure AttributeElement (rendering : Rendering) (number : Nat) (line text : List Char) :
    Prop where
  tag : rendering.HasTag number line text
  distinct : ((rendering.elementAttributes number line).map Attribute.name).Nodup
  proper : ∀ column ∈ rendering.columnsOf line,
    isName column.name = true ∧ ':' ∉ column.name ∧ column.name ≠ "xmlns".toList
  /-- Without a name from the settings or the header, the own name of a column is a numbered one. -/
  own : ∀ column ∈ rendering.ownColumns line, ∃ index, column.number = index + 1
    ∧ column.name = rendering.columnNames[index]?.join.getD (rendering.style.numberedName (index + 1))
  renames : rendering.style.Renames rendering.style.reservedNames (rendering.ownColumns line)
    (rendering.columnsOf line)

theorem own_of_mem_ownColumns (attributes : rendering.style.attributes = true) {line : List Char}
    {column : WrittenColumn} (inside : column ∈ rendering.ownColumns line) :
    ∃ index, column.number = index + 1 ∧ column.name =
      rendering.columnNames[index]?.join.getD (rendering.style.numberedName (index + 1)) := by
  obtain ⟨index, number, name⟩ := eq_of_mem_writtenFrom inside
  rw [Nat.zero_add, fallbackName, if_pos attributes] at name
  exact ⟨index, by omega, name⟩

theorem isName_ownColumns (proper : rendering.ProperNames)
    (given : isName rendering.style.columnName.toList = true)
    (attributes : rendering.style.attributes = true) (line : List Char) :
    ∀ column ∈ rendering.ownColumns line, isName column.name = true := by
  intro column inside
  obtain ⟨index, -, name⟩ := own_of_mem_ownColumns attributes inside
  rw [name]
  cases own : rendering.columnNames[index]?.join with
  | none => exact DocumentStyle.isName_numberedName given (index + 1)
  | some name =>
    rw [Option.join_eq_some_iff] at own
    exact proper name (List.mem_of_getElem? own)

theorem hasTag_of_line (attributes : rendering.style.attributes = true) {number : Nat}
    {line text : List Char} (h : rendering.line number line = .ok text) :
    rendering.HasTag number line text := by
  unfold HasTag
  obtain ⟨_, rfl, ⟨layout, rfl⟩ | ⟨chosen, columns, layout, divided, rfl⟩⟩ := element_of_line h
  · -- Without a layout there are no columns, and the text of the line stands in the element.
    have nothing : rendering.columnsOf line = [] := by
      rw [columnsOf, extracted, layout, writtenColumns, if_pos attributes]
      rfl
    rw [elementAttributes, nothing, List.map_nil, List.append_nil, verbatimElement]
    split
    · exact ⟨['/', '>', '\n'], .inr ⟨['\n'], rfl⟩, by simp [emptyTag]⟩
    · refine ⟨'>' :: (escape line ++ endTag rendering.style.lineName.toList ++ ['\n']),
        .inl ⟨_, rfl⟩, ?_⟩
      simp [startTag]
  · rw [← extracted_eq layout divided, columnsElement, if_pos attributes]
    refine ⟨['/', '>', '\n'], .inr ⟨['\n'], rfl⟩, ?_⟩
    simp [emptyTag, elementAttributes, columnsOf]

theorem distinct_elementAttributes (attributes : rendering.style.attributes = true) (number : Nat)
    (line : List Char) :
    ((rendering.elementAttributes number line).map Attribute.name).Nodup := by
  obtain ⟨different, free⟩ := (renames_columnsOf attributes line).nodup
  rw [elementAttributes, List.map_append, lineAttributes_names, List.map_map, List.nodup_append]
  refine ⟨(reservedNames_proper rendering.style).1, different, ?_⟩
  rintro name reserved other inside rfl
  rcases List.mem_map.mp inside with ⟨column, member, rfl⟩
  exact free column member reserved

/-- **Every line element has different attributes**, all of them under names that they may have. -/
theorem attributeElement_of_line (proper : rendering.ProperNames)
    (given : isName rendering.style.columnName.toList = true)
    (attributes : rendering.style.attributes = true) {number : Nat} {line text : List Char}
    (h : rendering.line number line = .ok text) :
    rendering.AttributeElement number line text := by
  have renames := renames_columnsOf attributes line
  constructor
  · exact hasTag_of_line attributes h
  · exact distinct_elementAttributes attributes number line
  · intro column inside
    have named := renames.isName given (isName_ownColumns proper given attributes line) column inside
    refine ⟨named, ?_, ?_⟩
    · intro colon
      exact ne_of_isNameChar (isNameChar_of_mem named colon) (by decide) rfl
    · obtain ⟨own, -, before, namedAs, -⟩ := renames.exists_namedAs inside
      exact namedAs.ne_xmlns
  · intro column inside
    exact own_of_mem_ownColumns attributes inside
  · exact renames

end Rendering

/-! ### Documents -/

namespace Assembly

variable [MultibyteCodecs]

/-- Only a header line changes how lines are rendered. -/
theorem Step.rendering_eq {before after : Assembly} {given : Option Chunk}
    (step : Step before given after) :
    after.rendering = before.rendering
      ∨ ∃ number line, before.rendering.afterHeader number line = .ok after.rendering := by
  cases step with
  | comment stage within pulled named => exact .inr ⟨_, _, named⟩
  | prologue => exact .inl rfl
  | unnamed => exact .inl rfl
  | element => exact .inl rfl
  | undivided => exact .inl rfl
  | unread => exact .inl rfl
  | last => exact .inl rfl
  | footer => exact .inl rfl
  | done => exact .inl rfl

theorem rendering_afterCalls {assembly : Assembly} (proper : assembly.rendering.ProperNames)
    (calls : Nat) :
    (assembly.afterCalls calls).rendering.style = assembly.rendering.style
      ∧ (assembly.afterCalls calls).rendering.ProperNames := by
  apply @afterCalls_induction _ assembly fun after =>
    after.rendering.style = assembly.rendering.style ∧ after.rendering.ProperNames
  · rintro before given after step ⟨style, proper⟩
    rcases step.rendering_eq with same | ⟨number, line, named⟩
    · rw [same]
      exact ⟨style, proper⟩
    · exact ⟨(Rendering.afterHeader_style named).1.trans style, proper.afterHeader named⟩
  · exact ⟨rfl, proper⟩

end Assembly

namespace Conversion

variable {settings : Settings} {custom : Option LineSplitter} {conversion : Conversion}

theorem Made.accepts (made : Made settings custom conversion) :
    Assembly.Accepts settings.style conversion.layout := by
  rcases made.checks with ⟨output, checks⟩
  exact (Assembly.accepts_of_checks checks).2

section

variable [MultibyteCodecs]

/-- How lines are rendered on the way: in the style of the settings, under proper names. -/
theorem Made.rendering_wrap (made : Made settings custom conversion) (source : Source)
    (path : String) :
    ∃ assembly, conversion.wrap source path = .ok assembly
      ∧ ∀ calls, (assembly.afterCalls calls).rendering.style = settings.style
        ∧ (assembly.afterCalls calls).rendering.ProperNames := by
  rcases made.checks with ⟨output, checks⟩
  have resolved := (Assembly.accepts_of_checks checks).1
  refine ⟨_, made.wrap_eq resolved source path, ?_⟩
  intro calls
  have proper : conversion.rendering.ProperNames := Rendering.properNames_initial _ _ _
  obtain ⟨style, proper⟩ := @Assembly.rendering_afterCalls _
    (.start (.new source conversion.charset conversion.terminator) (.ofPath path) output
      conversion.rendering) proper calls
  exact ⟨style.trans (congrArg Settings.style made.same), proper⟩

/-- **No line element of a document repeats or misuses an attribute name**, whichever header lines
    have given the names of the columns, and whatever line comes next. -/
theorem attributeElement_wrap (accepted : new? settings custom = .ok conversion)
    (attributes : settings.columnsAsAttributes = true) (source : Source) (path : String) :
    ∃ assembly, conversion.wrap source path = .ok assembly
      ∧ ∀ (calls number : Nat) (line text : List Char),
        (assembly.afterCalls calls).rendering.line number line = .ok text →
          (assembly.afterCalls calls).rendering.AttributeElement number line text := by
  have made := made_of_new? accepted
  obtain ⟨assembly, wrapped, rendered⟩ := made.rendering_wrap source path
  refine ⟨assembly, wrapped, ?_⟩
  intro calls number line text written
  obtain ⟨style, proper⟩ := rendered calls
  apply Rendering.attributeElement_of_line proper
  · rw [style]
    exact made.accepts.column
  · rw [style]
    exact attributes
  · exact written

end

/-- Settings with a header line of names and column attributes next to those of the line. -/
def crowdedSettings : Settings :=
  { layout := some .delimited, separator := some ",", namesFromHeaderLine := some 1,
    headerLineCount := 1, columnsAsAttributes := true, emitRawLine := true }

/-- Two names of the line, a numbered one, one that comes twice, and one that declares a
    namespace. -/
theorem attributeElement_wrap_crowded :
    ∃ assembly, wrap ⟨crowdedSettings, .utf8, none, some (.delimited [','])⟩
        [.data (Charset.utf8.encode "number,raw,Col5,a,a,xmlns:b\n".toList)] "f.txt" = .ok assembly
      ∧ ∃ text, (assembly.afterCalls 2).rendering.line 1 "1,2,3,4,5,6".toList = .ok text
        ∧ (assembly.afterCalls 2).rendering.AttributeElement 1 "1,2,3,4,5,6".toList text
        ∧ text = ("  <Line number=\"1\" raw=\"1,2,3,4,5,6\" Col1=\"1\" Col2=\"2\" Col5=\"3\" " ++
          "a=\"4\" Col5_2=\"5\" Col6=\"6\"/>\n").toList := by
  obtain ⟨assembly, made, all⟩ := @attributeElement_wrap crowdedSettings none
    ⟨crowdedSettings, .utf8, none, some (.delimited [','])⟩ _ rfl rfl
    [.data (Charset.utf8.encode "number,raw,Col5,a,a,xmlns:b\n".toList)] "f.txt"
  refine ⟨assembly, made, ?_⟩
  cases made
  generalize shown : (Assembly.afterCalls _ 2).rendering.line 1 "1,2,3,4,5,6".toList = result
  have text : result.toOption = some ("  <Line number=\"1\" raw=\"1,2,3,4,5,6\" Col1=\"1\" " ++
      "Col2=\"2\" Col5=\"3\" a=\"4\" Col5_2=\"5\" Col6=\"6\"/>\n").toList := by
    rw [← shown]
    decide +kernel
  cases result with
  | error failure => cases text
  | ok text' => exact ⟨text', rfl, all 2 1 _ text' shown, Option.some.inj text⟩

end Conversion

end FlatFile
