/-
  FlatFile/Proofs/Recovery/Reserved.lean
  ======================================
  **Which attributes of a line element are no columns when its line is recovered.**

  The recovery of lines skips an attribute by its name alone, whether or not the
  presentation has such an attribute.  So the attributes of a line are always skipped,
  but a column is as well if it has the name of one that is left out, or a numbered name
  that declares a namespace (`DocumentStyle.hides`).  All other columns gather in the
  record, in their order (`skips_wrap`).
-/
import FlatFile.Charset.AsciiOnly
import FlatFile.Proofs.Document.Attributes
import FlatFile.Proofs.Recovery.Lines

namespace FlatFile

open Markup

/-! ### Names that are skipped -/

namespace DocumentStyle

variable {style : DocumentStyle} {taken : List (List Char)} {column : WrittenColumn}
  {name : List Char}

/-- **The names under which a column is lost**: that of an attribute which the lines do not have,
    or one that begins like the name of columns, where this declares a namespace. -/
def hides (style : DocumentStyle) (name : List Char) : Bool :=
  (name == "number".toList && !style.lineNumbers)
    || (name == "raw".toList && !style.rawLine)
    || (declaresNamespace style.columnName.toList
      && Text.startsWith style.columnName.toList name)

theorem isReserved_own (plain : declaresNamespace name = false)
    (free : name ∉ style.reservedNames) : Recovery.isReserved name = style.hides name := by
  have apart : (declaresNamespace style.columnName.toList
      && Text.startsWith style.columnName.toList name) = false := by
    rw [← Bool.not_eq_true, Bool.and_eq_true]
    rintro ⟨declares, begins⟩
    rw [← Bool.not_eq_true] at plain
    rw [declaresNamespace, Text.startsWith, List.isPrefixOf_iff_prefix] at declares plain
    rw [Text.startsWith, List.isPrefixOf_iff_prefix] at begins
    exact plain (declares.trans begins)
  have numbers : name = "number".toList → style.lineNumbers = false := by
    rintro rfl
    rw [← Bool.not_eq_true]
    intro shown
    exact free (List.mem_append_left _ (by rw [if_pos shown]; exact List.mem_singleton_self _))
  have raw : name = "raw".toList → style.rawLine = false := by
    rintro rfl
    rw [← Bool.not_eq_true]
    intro shown
    exact free (List.mem_append_right _ (by rw [if_pos shown]; exact List.mem_singleton_self _))
  have declares : Text.startsWith "xmlns".toList name = false := plain
  rw [Recovery.isReserved, hides, apart, declares, Bool.or_false, Bool.or_false, Bool.eq_iff_iff]
  simp only [Bool.or_eq_true, Bool.and_eq_true, Bool.not_eq_true', beq_iff_eq]
  constructor
  · rintro (same | same)
    · exact .inl ⟨same, numbers same⟩
    · exact .inr ⟨same, raw same⟩
  · rintro (⟨same, -⟩ | ⟨same, -⟩)
    · exact .inl same
    · exact .inr same

/-- A name that goes on from that of columns and ends in a number declares a namespace or is none of
    the attributes of a line. -/
theorem isReserved_numbered {more : List Char} (without : 's' ∉ more) (number : Nat) :
    Recovery.isReserved (style.columnName.toList ++ (more ++ Text.decimal number)) =
      style.hides (style.columnName.toList ++ (more ++ Text.decimal number)) := by
  have other (text : List Char) {last : Char} (letter : last.isDigit = false) :
      (style.columnName.toList ++ (more ++ Text.decimal number) == text ++ [last]) = false := by
    rw [beq_eq_false_iff_ne, ← List.append_assoc]
    exact Text.append_decimal_ne _ number letter text
  have declares : Text.startsWith "xmlns".toList
      (style.columnName.toList ++ (more ++ Text.decimal number)) =
        declaresNamespace style.columnName.toList := by
    apply declaresNamespace_append
    rw [List.mem_append, not_or]
    exact ⟨without, s_not_mem_decimal number⟩
  have begins : Text.startsWith style.columnName.toList
      (style.columnName.toList ++ (more ++ Text.decimal number)) = true := by
    rw [Text.startsWith, List.isPrefixOf_iff_prefix]
    exact List.prefix_append _ _
  have number' := other "numbe".toList (show 'r'.isDigit = false by decide)
  have raw' := other "ra".toList (show 'w'.isDigit = false by decide)
  rw [Recovery.isReserved, hides, declares, begins, Bool.and_true]
  rw [show "number".toList = "numbe".toList ++ ['r'] from rfl, number',
    show "raw".toList = "ra".toList ++ ['w'] from rfl, raw']
  rfl

theorem NamedAs.isReserved_eq (named : style.NamedAs taken column name)
    (reserved : ∀ name ∈ style.reservedNames, name ∈ taken) :
    Recovery.isReserved name = style.hides name := by
  cases named with
  | own free plain => exact isReserved_own plain fun inside => free (reserved _ inside)
  | numbered => exact isReserved_numbered List.not_mem_nil column.number
  | @suffixed k =>
    have all := @isReserved_numbered style (Text.decimal column.number ++ ['_']) (by
      rw [List.mem_append, not_or]
      exact ⟨s_not_mem_decimal _, by decide⟩) k
    rwa [List.append_assoc, List.singleton_append, ← List.append_assoc] at all

end DocumentStyle

/-! ### Records -/

namespace Recovery

variable {recovery : Recovery} {rendering : Rendering}

/-- **What a recovery makes of the attributes of a line element.** -/
structure Skips (recovery : Recovery) (rendering : Rendering) (number : Nat)
    (line text : List Char) : Prop where
  tag : rendering.HasTag number line text
  ofLine : ∀ one ∈ rendering.lineAttributes number line, isReserved one.name = true
  ofColumn : ∀ column ∈ rendering.columnsOf line,
    isReserved column.name = rendering.style.hides column.name
  /-- The columns that are not hidden gather in the record, unless a value ends its attribute. -/
  record : (∀ column ∈ rendering.columnsOf line, '"' ∉ column.value) →
    recovery.opened (Tag.ofContent (renderHead rendering.style.lineName.toList
      (rendering.elementAttributes number line))) =
      ((rendering.columnsOf line).filter fun column => !rendering.style.hides column.name).foldl
        (fun record column => record.addColumn (recovery.positionOfName? column.name) column.value)
        {}

theorem isReserved_lineAttributes {number : Nat} {line : List Char} {one : Attribute}
    (inside : one ∈ rendering.lineAttributes number line) : isReserved one.name = true := by
  have reserved : one.name ∈ rendering.style.reservedNames := by
    rw [← rendering.lineAttributes_names number line]
    exact List.mem_map_of_mem inside
  exact DocumentStyle.isReserved_of_mem reserved

theorem isReserved_columnsOf (attributes : rendering.style.attributes = true) {line : List Char}
    {column : WrittenColumn} (inside : column ∈ rendering.columnsOf line) :
    isReserved column.name = rendering.style.hides column.name := by
  obtain ⟨own, -, before, named, -⟩ :=
    (Rendering.renames_columnsOf attributes line).exists_namedAs inside
  exact named.isReserved_eq fun name reserved => List.mem_append_right before reserved

theorem skips_of_attributeElement (recovery : Recovery) {number : Nat} {line text : List Char}
    (attributes : rendering.style.attributes = true)
    (lineName : isName rendering.style.lineName.toList = true)
    (element : rendering.AttributeElement number line text) :
    recovery.Skips rendering number line text := by
  constructor
  · exact element.tag
  · intro one inside
    exact isReserved_lineAttributes inside
  · intro column inside
    exact isReserved_columnsOf attributes inside
  · intro unquoted
    have wellFormed : ∀ one ∈ rendering.elementAttributes number line, one.WellFormed := by
      intro one inside
      rcases List.mem_append.mp inside with ofLine | ofColumn
      · rw [Rendering.written_lineFacts] at ofLine
        exact wellFormed_written (rendering.lineFacts_proper number line).2 one ofLine
      · rcases List.mem_map.mp ofColumn with ⟨column, member, rfl⟩
        exact ⟨(element.proper column member).1, unquoted column member⟩
    have none_left (keep : List Char × List Char → Bool)
        (same : ∀ pair, keep pair = !isReserved pair.1) :
        ((rendering.lineAttributes number line).map fun one => (one.name, one.value)).filter
          keep = [] := by
      rw [List.filter_eq_nil_iff]
      intro pair inside
      rcases List.mem_map.mp inside with ⟨one, member, rfl⟩
      simp [same, isReserved_lineAttributes member]
    have kept : (rendering.columnsOf line).filter (fun column => !isReserved column.name) =
        (rendering.columnsOf line).filter fun column => !rendering.style.hides column.name := by
      apply List.filter_congr
      intro column inside
      rw [isReserved_columnsOf attributes inside]
    rw [takeWhile_renderHead fun c inside => isNameChar_of_mem lineName inside, opened,
      attributes_flatMap_render wellFormed element.distinct, Rendering.elementAttributes,
      List.map_append, List.filter_append, none_left, List.nil_append, List.map_map,
      List.filter_map, List.foldl_map, ← kept]
    · rfl
    · intro pair
      rfl

end Recovery

/-! ### Documents -/

namespace Conversion

variable {settings : Settings} {custom : Option LineSplitter} {conversion : Conversion}

section

variable [MultibyteCodecs]

/-- **A recovery skips the attributes of a line, and of its columns just those that are hidden.** -/
theorem skips_wrap (accepted : new? settings custom = .ok conversion)
    (attributes : settings.columnsAsAttributes = true) (source : Source) (path : String) :
    ∃ assembly, conversion.wrap source path = .ok assembly
      ∧ ∀ (calls number : Nat) (line text : List Char),
        (assembly.afterCalls calls).rendering.line number line = .ok text →
          conversion.recovery.Skips (assembly.afterCalls calls).rendering number line text := by
  have made := made_of_new? accepted
  obtain ⟨assembly, wrapped, rendered⟩ := made.rendering_wrap source path
  refine ⟨assembly, wrapped, ?_⟩
  intro calls number line text written
  obtain ⟨style, proper⟩ := rendered calls
  have columns : (assembly.afterCalls calls).rendering.style.attributes = true := by
    rw [style]
    exact attributes
  apply Recovery.skips_of_attributeElement conversion.recovery columns
  · rw [style]
    exact made.accepts.line
  · apply Rendering.attributeElement_of_line proper _ columns written
    rw [style]
    exact made.accepts.column

end

/-- Settings with a column under the name of an attribute that the lines do not have. -/
def hiddenSettings : Settings :=
  { layout := some .delimited, separator := some ",", columnNames := ["number"],
    columnsAsAttributes := true, emitLineNumbers := false, emitXmlDeclaration := false }

/-- A line of which the first column is skipped and the second one is not. -/
theorem skips_wrap_hidden :
    ∃ assembly, wrap ⟨hiddenSettings, .utf8, none, some (.delimited [','])⟩
        [.data (Charset.utf8.encode "x,y".toList)] "f.txt" = .ok assembly
      ∧ ∃ text, assembly.rendering.line 1 "x,y".toList = .ok text
        ∧ (recovery ⟨hiddenSettings, .utf8, none, some (.delimited [','])⟩).Skips
          assembly.rendering 1 "x,y".toList text
        ∧ (assembly.rendering.columnsOf "x,y".toList).map
          (fun column => hiddenSettings.style.hides column.name) = [true, false] := by
  obtain ⟨assembly, made, all⟩ := @skips_wrap hiddenSettings none
    ⟨hiddenSettings, .utf8, none, some (.delimited [','])⟩ _ rfl rfl
    [.data (Charset.utf8.encode "x,y".toList)] "f.txt"
  refine ⟨assembly, made, ?_⟩
  cases made
  exact ⟨_, rfl, all 0 1 _ _ rfl, rfl⟩

/-- The value of a hidden column does not come back: it is the first attribute of the only line
    element, which has no number. -/
theorem hidden_column_lost :
    new? hiddenSettings none = .ok ⟨hiddenSettings, .utf8, none, some (.delimited [','])⟩
      ∧ ∃ assembly, wrap ⟨hiddenSettings, .utf8, none, some (.delimited [','])⟩
        [.data (Charset.utf8.encode "x,y".toList)] "f.txt" = .ok assembly
      ∧ assembly.rendering.lineAttributes 1 "x,y".toList = []
      ∧ (∃ column ∈ assembly.rendering.columnsOf "x,y".toList,
        column.value = ['x'] ∧ Recovery.isReserved column.name = true)
      ∧ (assembly.handed 4).map (Option.map Except.toOption) =
        [some (some (Charset.utf8.encode
            "<DocElement name=\"f.txt\" location=\"f.txt\">\n".toList)),
          some (some (Charset.utf8.encode "  <Line number=\"x\" Col2=\"y\"/>\n".toList)),
          some (some (Charset.utf8.encode "</DocElement>".toList)), none]
      ∧ (recover ⟨hiddenSettings, .utf8, none, some (.delimited [','])⟩
          (.ofBytes (Charset.utf8.encode ("<DocElement name=\"f.txt\" location=\"f.txt\">\n" ++
            "  <Line number=\"x\" Col2=\"y\"/>\n" ++ "</DocElement>").toList)) {}).sink.accepted =
        Charset.utf8.encode ",y\n".toList := by
  have made : wrap ⟨hiddenSettings, .utf8, none, some (.delimited [','])⟩
    [.data (Charset.utf8.encode "x,y".toList)] "f.txt" = .ok _ := rfl
  refine ⟨rfl, _, made, rfl, ⟨_, List.mem_cons_self, rfl, ?_⟩, ?_, ?_⟩
  · decide
  · decide +kernel
  · decide +kernel

end Conversion

end FlatFile
