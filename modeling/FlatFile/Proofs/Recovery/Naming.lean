/-
  FlatFile/Proofs/Recovery/Naming.lean
  ====================================
  **Columns that are found by their names, or by none.**

  The names that a header gives are not known when lines are recovered.  A column under
  such a name is looked up among the names of the settings and the numbered names, and if
  it is neither of these, it follows the column before it.  So a delimited line comes back
  as it was if no name of a column leads to another one (`givesBack_named`): the columns
  are then met in their order, each at the position behind that of the one before it
  (`leads_consecutive`).
-/
import FlatFile.Charset.AsciiOnly
import FlatFile.Proofs.Document.Steps
import FlatFile.Proofs.Recovery.RoundTrip

namespace FlatFile

open Markup

/-! ### Columns in a row -/

namespace Columns

theorem cells_map_some (tokens : List (List Char)) :
    cells (tokens.map some) = tokens.zipIdx.map fun (token, index) => (index, token) := by
  rw [cells, List.zipIdx_map, List.filterMap_map, ← List.filterMap_eq_map]
  rfl

theorem positions_cells_map_some (tokens : List (List Char)) :
    (cells (tokens.map some)).map Prod.fst = List.range' 0 tokens.length := by
  rw [cells_map_some, List.map_map]
  exact List.zipIdx_map_snd 0 tokens

end Columns

theorem DocumentStyle.Renames.map_cell {style : DocumentStyle} {taken : List (List Char)}
    {columns written : List WrittenColumn} (renames : style.Renames taken columns written) :
    written.map Rendering.cell = columns.map Rendering.cell := by
  induction renames with
  | nil => rfl
  | cons named others ih =>
    rw [List.map_cons, List.map_cons, ih]
    rfl

namespace Rendering

variable {rendering : Rendering}

/-- **The cells of the columns shown** are those of the columns that are not left out, under
    whichever names. -/
theorem map_cell_shownColumns (unstripped : rendering.converters.strip = false)
    (columns : Columns) :
    (rendering.shownColumns columns).map cell = (columns.sparing rendering.leaves 0).cells := by
  rw [← map_cell_listed_unstripped unstripped]
  unfold shownColumns
  split
  · exact (DocumentStyle.renames_distinctNames _ (NameSet.holds_ofList _) _).map_cell
  · rfl

end Rendering

namespace Recovery

variable {recovery : Recovery} {rendering : Rendering}

/-- **A column is found under its name**: it is not taken for another attribute, and its name leads
    to no position or to its own. -/
def Finds (recovery : Recovery) (rendering : Rendering) (column : WrittenColumn) : Prop :=
  (rendering.style.attributes = true → isReserved column.name = false)
    ∧ (recovery.positionOfName? column.name = none
      ∨ recovery.positionOfName? column.name = some (UInt64.ofNat (Rendering.cell column).1))

instance (column : WrittenColumn) : Decidable (recovery.Finds rendering column) :=
  inferInstanceAs (Decidable (_ ∧ _))

/-- Columns in a row lead to their cells, even those that tell no position. -/
theorem leads_consecutive {columns : List WrittenColumn} {position : WrittenColumn → Option UInt64}
    {start : Nat}
    (row : (columns.map Rendering.cell).map Prod.fst = List.range' start columns.length)
    (found : ∀ column ∈ columns, position column = none
      ∨ position column = some (UInt64.ofNat (Rendering.cell column).1)) :
    Record.Leads (UInt64.ofNat start)
      (columns.map fun column => (position column, column.value))
      (columns.map Rendering.cell) := by
  induction columns generalizing start with
  | nil => exact .nil
  | cons column columns ih =>
    rcases List.forall_mem_cons.mp found with ⟨here, others⟩
    rw [List.map_cons, List.map_cons, List.length_cons, List.range'_succ] at row
    obtain ⟨first, row⟩ := List.cons.inj row
    have later := ih row others
    have next : UInt64.ofNat (start + 1) = UInt64.ofNat start + 1 := UInt64.ofNat_add start 1
    rw [next, ← first] at later
    refine .cons ?_ later
    rcases here with none_told | own
    · rw [none_told, Option.getD_none, ← first]
      rfl
    · rw [own, Option.getD_some]
      rfl

theorem positionOfTag?_unnumbered (unnumbered : rendering.style.columnNumbers = false)
    {column : WrittenColumn} (named : isName column.name = true) :
    recovery.positionOfTag? (columnTag rendering column) =
      recovery.positionOfName? column.name := by
  have bare : (writtenTag column.name []).attributes = [] := rfl
  rw [columnTag, if_neg (by rw [unnumbered]; exact Bool.false_ne_true), positionOfTag?, bare,
    List.filterMap_nil, writtenTag_name, localName_of_isName named]

/-- **A delimited line of columns that are found under their names** is the line of its record. -/
theorem line_gathered_of_finds (mirrors : recovery.Mirrors rendering)
    (layout : recovery.layout = rendering.layout)
    (unconverted : ∀ index, recovery.converters.converter? index = none)
    (unstripped : rendering.converters.strip = false)
    (byName : rendering.style.attributes = true ∨ rendering.style.columnNumbers = false)
    {separator : List Char} (chosen : rendering.layout = some (.delimited separator))
    (nonempty : separator ≠ []) (all : rendering.leaves = fun _ => false) {line : List Char}
    (few : line.length + 1 < UInt64.size)
    (finds : ∀ column ∈ rendering.shownColumns (rendering.extracted line),
      recovery.Finds rendering column) :
    recovery.line (recovery.gathered rendering line) = .ok line := by
  obtain ⟨tokens, divided⟩ := Rendering.exists_extracted_delimited chosen line
  have cells := rendering.map_cell_shownColumns unstripped (rendering.extracted line)
  rw [all, Columns.sparing_none] at cells
  have row : (((rendering.shownColumns (rendering.extracted line)).map Rendering.cell).map
      Prod.fst) = List.range' 0 (rendering.shownColumns (rendering.extracted line)).length := by
    have positions := Columns.positions_cells_map_some tokens
    rw [← divided, ← cells] at positions
    have length := congrArg List.length positions
    rw [List.length_map, List.length_map, List.length_range'] at length
    rw [length]
    exact positions
  have leads : Record.Leads 0
      (if rendering.style.attributes then
        recovery.sightedAttributes (rendering.shownColumns (rendering.extracted line))
      else recovery.sightedElements rendering (rendering.shownColumns (rendering.extracted line)))
      (rendering.extracted line).cells := by
    rw [← cells]
    by_cases attributes : rendering.style.attributes = true
    · rw [if_pos attributes]
      have kept : (rendering.shownColumns (rendering.extracted line)).filter
          (fun column => !isReserved column.name) =
          rendering.shownColumns (rendering.extracted line) := by
        rw [List.filter_eq_self]
        intro column inside
        rw [(finds column inside).1 attributes, Bool.not_false]
      rw [sightedAttributes, kept]
      exact leads_consecutive row fun column inside => (finds column inside).2
    · rw [if_neg attributes, sightedElements]
      apply leads_consecutive row
      intro column inside
      have named := Rendering.shownColumns_names mirrors.proper mirrors.column _ column inside
      rw [positionOfTag?_unnumbered (byName.resolve_left attributes) named]
      exact (finds column inside).2
  have restored := Rendering.restored_delimited chosen nonempty all line
  rw [Rendering.restored, all, Columns.sparing_none, ← layout] at restored
  have composed := line_of_leads unconverted
    (Nat.lt_of_le_of_lt (Rendering.length_extracted_delimited chosen nonempty line) few) leads
  rwa [restored] at composed

end Recovery

namespace Conversion

variable {settings : Settings} {custom : Option LineSplitter} {conversion : Conversion}
  {source : Source}

section

variable [MultibyteCodecs]

/-- **Delimited files come back under any names that lead no column astray**, wherever the names
    are from: every line is as it was, only the hyphens of the header lines are kept apart. -/
theorem givesBack_named (accepted : new? settings custom = .ok conversion)
    (transparent : Transparent settings) (selected : settings.layout = some .delimited)
    (byName : settings.columnsAsAttributes = true ∨ settings.emitColumnNumbers = false)
    (kept : settings.skipAnyEmptyColumn = false)
    (kept' : settings.skipEmptyDefaultNamedColumns = false) (served : source.failure? = none)
    (finds : ∀ line ∈ conversion.body source,
      ∀ column ∈ (conversion.rendering.named (conversion.header source)).shownColumns
        ((conversion.rendering.named (conversion.header source)).extracted line),
      conversion.recovery.Finds (conversion.rendering.named (conversion.header source)) column)
    (few : ∀ line ∈ conversion.body source, line.length + 1 < UInt64.size) (path : String) :
    conversion.GivesBack source path
      ((conversion.header source).map hyphensApart ++ conversion.body source) := by
  have made := made_of_new? accepted
  obtain ⟨separator, chosen, nonempty⟩ := made.delimited selected
  have all := @Rendering.leaves_eq_false (conversion.rendering.named (conversion.header source))
    (by rw [← kept, ← made.same]; rfl) (by rw [← kept', ← made.same]; rfl)
  have faithful := made.faithful transparent.escaping transparent.unconverted
    (conversion.header source)
  have unstripped := transparent.unstripped
  rw [← made.same] at byName unstripped
  have lines := givesBack_of_gathered transparent made chosen (Rendering.total_delimited separator)
    served (fun line inside => Recovery.line_gathered_of_finds
      (made.mirrors (by rw [chosen]; rfl) _) rfl faithful.unconverted unstripped byName chosen
      nonempty all (few line inside) (finds line inside)) path
  rwa [List.map_id'] at lines

end

/-- Settings that know one name, next to those that a header gives. -/
def namedSettings : Settings :=
  { layout := some .delimited, separator := some ",", columnNames := ["id"],
    namesFromHeaderLine := some 1, headerLineCount := 1, columnsAsAttributes := true,
    emitXmlDeclaration := false }

/-- A name of the settings, a numbered one and one that is not known, over full, empty and short
    lines. -/
theorem givesBack_named_mixed :
    ∃ assembly, wrap ⟨namedSettings, .utf8, none, some (.delimited [','])⟩
        [.data (Charset.utf8.encode "id,Col2,x y\n1,,<3\n\n4,5\n".toList)] "f.txt" = .ok assembly
      ∧ ∃ blocks : List (List UInt8), assembly.drain.1.map Prod.fst = blocks.map .ok
        ∧ (recover ⟨namedSettings, .utf8, none, some (.delimited [','])⟩
          (.ofBytes blocks.flatten) {}).result = .ok 4
        ∧ (recover ⟨namedSettings, .utf8, none, some (.delimited [','])⟩
          (.ofBytes blocks.flatten) {}).sink.accepted =
            Charset.utf8.encode "id,Col2,x y\n1,,<3\n\n4,5\n".toList := by
  have body : Conversion.body ⟨namedSettings, .utf8, none, some (.delimited [','])⟩
      [.data (Charset.utf8.encode "id,Col2,x y\n1,,<3\n\n4,5\n".toList)] =
        ["1,,<3".toList, [], "4,5".toList] := rfl
  obtain ⟨assembly, made, blocks, produced, recovered⟩ := @givesBack_named namedSettings none
    ⟨namedSettings, .utf8, none, some (.delimited [','])⟩
    [.data (Charset.utf8.encode "id,Col2,x y\n1,,<3\n\n4,5\n".toList)] _ rfl
    ⟨rfl, rfl, by decide, rfl, rfl, fun _ inside => absurd inside List.not_mem_nil⟩
    rfl (.inl rfl) rfl rfl rfl (by rw [body]; decide +kernel) (by rw [body]; decide) "f.txt"
  obtain ⟨result, accepted⟩ := recovered (.ofBytes blocks.flatten) (Source.failure?_ofBytes _)
    (Source.bytes_ofBytes _) {} ⟨nofun, rfl, rfl⟩
  exact ⟨assembly, made, blocks, produced, result.trans rfl, accepted.trans rfl⟩

/-- Numbered names that a header gives to other columns: the columns of the line change places,
    though the names are different and the line has a column for each of them. -/
theorem swapped_by_names :
    new? namedSettings none = .ok ⟨namedSettings, .utf8, none, some (.delimited [','])⟩
      ∧ ∃ assembly, wrap ⟨namedSettings, .utf8, none, some (.delimited [','])⟩
        [.data (Charset.utf8.encode "Col2,Col1\nx,y".toList)] "f.txt" = .ok assembly
      ∧ (assembly.handed 5).map (Option.map Except.toOption) =
        [some (some (Charset.utf8.encode
            "<DocElement name=\"f.txt\" location=\"f.txt\">\n".toList)),
          some (some (Charset.utf8.encode "  <!-- Col2,Col1 -->\n".toList)),
          some (some (Charset.utf8.encode
            "  <Line number=\"1\" Col2=\"x\" Col1=\"y\"/>\n".toList)),
          some (some (Charset.utf8.encode "</DocElement>".toList)), none]
      ∧ (recover ⟨namedSettings, .utf8, none, some (.delimited [','])⟩
          (.ofBytes (Charset.utf8.encode ("<DocElement name=\"f.txt\" location=\"f.txt\">\n" ++
            "  <!-- Col2,Col1 -->\n" ++ "  <Line number=\"1\" Col2=\"x\" Col1=\"y\"/>\n" ++
            "</DocElement>").toList)) {}).sink.accepted =
        Charset.utf8.encode "Col2,Col1\ny,x\n".toList := by
  have made : wrap ⟨namedSettings, .utf8, none, some (.delimited [','])⟩
    [.data (Charset.utf8.encode "Col2,Col1\nx,y".toList)] "f.txt" = .ok _ := rfl
  refine ⟨rfl, _, made, ?_, ?_⟩
  · decide +kernel
  · decide +kernel

end Conversion

end FlatFile
