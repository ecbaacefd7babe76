/-
  FlatFile/Proofs/Recovery/Unnumbered.lean
  ========================================
  **Where columns without a number go.**

  A column element without a number is looked up by its name.  It has one of the configured
  names, and then it goes to the first column of this name; or it has the name of columns
  that have none, and then it follows the column before it, unless that name is configured
  as well (`positionOfName?_elementName`).  So each column of a line has its place, told by
  the names alone (`Rendering.place`), and what comes back of the line are the values at
  these places, the last one where several columns go to one (`Rendering.regained`).

  If the names tell the columns apart, each is at its own place and the line comes back as it
  was.  Otherwise it need not: of two columns with one name the first is overwritten
  (`repeated_name_overwrites`).
-/
import FlatFile.Charset.AsciiOnly
import FlatFile.Proofs.Recovery.Naming
import FlatFile.Proofs.Recovery.Placement

namespace FlatFile

open Markup

/-! ### Values at places -/

namespace Columns

/-- The number of places up to the last one of some cells. -/
def extent (cells : List (Nat × List Char)) : Nat :=
  cells.foldr (fun cell count => max (cell.1 + 1) count) 0

/-- The values of some cells, place by place: the last one for a place counts, and a place without
    one is empty. -/
def settled (cells : List (Nat × List Char)) : List (List Char) :=
  (List.range (extent cells)).map fun place => (cells.reverse.lookup place).getD []

end Columns

namespace Record

open Columns

variable {cells : List (Nat × List Char)}

/-- Some cells as a record keeps them. -/
def asWords (cells : List (Nat × List Char)) : List (UInt64 × List Char) :=
  cells.map fun cell => (UInt64.ofNat cell.1, escape cell.2)

theorem placeAll_eq (cells : List (Nat × List Char)) :
    placeAll cells [] = placeEach (asWords cells) [] := by
  rw [placeAll, placeEach, asWords, List.foldl_map]

theorem lookup_asWords (few : ∀ cell ∈ cells, cell.1 < UInt64.size) {place : Nat}
    (small : place < UInt64.size) :
    (asWords cells).lookup (UInt64.ofNat place) = (cells.lookup place).map escape := by
  induction cells with
  | nil => rfl
  | cons cell cells ih =>
    obtain ⟨here, others⟩ := List.forall_mem_cons.mp few
    have same : (UInt64.ofNat place == UInt64.ofNat cell.1) = (place == cell.1) := by
      rw [Bool.eq_iff_iff, beq_iff_eq, beq_iff_eq]
      constructor
      · intro words
        have numbers := congrArg UInt64.toNat words
        rwa [UInt64.toNat_ofNat_of_lt' small, UInt64.toNat_ofNat_of_lt' here] at numbers
      · exact congrArg UInt64.ofNat
    have more := ih others
    rw [asWords] at more ⊢
    rw [List.map_cons, List.lookup_cons, List.lookup_cons, same, more]
    cases place == cell.1 <;> rfl

theorem span_asWords (few : ∀ cell ∈ cells, cell.1 < UInt64.size) :
    span (asWords cells) = extent cells := by
  induction cells with
  | nil => rfl
  | cons cell cells ih =>
    obtain ⟨here, others⟩ := List.forall_mem_cons.mp few
    have more := ih others
    rw [span, asWords, List.map_cons, List.foldr_cons, ← asWords, ← span, more,
      UInt64.toNat_ofNat_of_lt' here]
    rfl

end Record

/-- Steps that all succeed give the list of what they give. -/
theorem mapM_of_ok {α β ε : Type} {f : α → Except ε β} {g : α → β} {items : List α}
    (each : ∀ item ∈ items, f item = .ok (g item)) : items.mapM f = .ok (items.map g) := by
  induction items with
  | nil => rfl
  | cons item items ih =>
    obtain ⟨here, others⟩ := List.forall_mem_cons.mp each
    rw [List.mapM_cons, here, ih others]
    rfl

/-- **The line of a record is that of the values at the places of its cells**, whichever cells it
    got and in whatever order. -/
theorem Recovery.line_of_cells {recovery : Recovery} {record : Record}
    (unconverted : ∀ index, recovery.converters.converter? index = none)
    {cells : List (Nat × List Char)} (some_cell : cells ≠ [])
    (few : ∀ cell ∈ cells, cell.1 + 1 < UInt64.size)
    (placed : record.columns = Record.placeAll cells []) :
    recovery.line record =
      .ok (ColumnLayout.compose recovery.layout (Columns.settled cells)) := by
  have words : ∀ cell ∈ cells, cell.1 < UInt64.size := by
    intro cell inside
    exact Nat.lt_of_succ_lt (few cell inside)
  have room : ∀ column ∈ Record.asWords cells, column.1.toNat + 1 < UInt64.size := by
    intro column inside
    obtain ⟨cell, member, rfl⟩ := List.mem_map.mp inside
    rw [UInt64.toNat_ofNat_of_lt' (words cell member)]
    exact few cell member
  have reversed : (Record.asWords cells).reverse = Record.asWords cells.reverse :=
    List.map_reverse.symm
  have words' : ∀ cell ∈ cells.reverse, cell.1 < UInt64.size := by
    intro cell inside
    exact words cell (List.mem_reverse.mp inside)
  rw [Record.placeAll_eq] at placed
  rw [line_of_placed placed (by rwa [Record.asWords, ne_eq, List.map_eq_nil_iff]) room,
    lineOfColumns, Record.span_perm (List.reverse_perm _), Record.span_asWords words]
  have fits : Columns.extent cells ≤ UInt64.size := by
    rw [← Record.span_asWords words, Record.span_le_iff]
    exact fun column _ => column.1.toNat_lt
  have values : (List.range (Columns.extent cells)).mapM
      (recovery.valueAt (Record.asWords cells).reverse) = .ok (Columns.settled cells) := by
    apply mapM_of_ok
    intro place inside
    have small : place < UInt64.size := (List.mem_range.mp inside).trans_le fits
    rw [valueAt, reversed, Record.lookup_asWords words' small]
    cases cells.reverse.lookup place with
    | none => rfl
    | some text =>
      simp only [Option.map_some, unescape_escape, ColumnConverters.toLine, unconverted]
      rfl
  rw [values]
  rfl

namespace Rendering

/-- The name of the element of a column. -/
def elementName (rendering : Rendering) (index : Nat) : List Char :=
  rendering.columnNames[index]?.join.getD rendering.style.columnName.toList

/-- The place behind that of the column before. -/
def following (rendering : Rendering) : Nat → Nat
  | 0 => 0
  | index + 1 =>
    (rendering.columnNames.idxOf? (some (rendering.elementName index))).getD
      (rendering.following index) + 1

/-- **The place of a column**: that of the first column with its name, or else the one that
    follows. -/
def place (rendering : Rendering) (index : Nat) : Nat :=
  (rendering.columnNames.idxOf? (some (rendering.elementName index))).getD
    (rendering.following index)

/-- The values of a line at the places of their columns. -/
def placed (rendering : Rendering) (values : List (List Char)) : List (Nat × List Char) :=
  values.zipIdx.map fun (value, index) => (rendering.place index, value)

/-- **What comes back of a line** whose columns are found by their places. -/
def regained (rendering : Rendering) (line : List Char) : List Char :=
  ColumnLayout.compose rendering.layout
    (Columns.settled (rendering.placed ((rendering.extracted line).map (·.getD []))))

/-- **The names tell some first columns apart.** -/
structure ToldApart (rendering : Rendering) (count : Nat) : Prop where
  /-- No two of them have one name. -/
  named : (rendering.columnNames.take count).Pairwise fun name other => name = none ∨ name ≠ other
  /-- If one of them has no name, no column has the name of columns without one. -/
  unnamed : ∀ index < count, rendering.columnNames[index]?.join = none →
    some rendering.style.columnName.toList ∉ rendering.columnNames

variable {rendering : Rendering}

theorem place_le (rendering : Rendering) (index : Nat) :
    rendering.following index ≤ rendering.columnNames.length + index
      ∧ rendering.place index ≤ rendering.columnNames.length + index := by
  have place_le {index : Nat}
      (behind : rendering.following index ≤ rendering.columnNames.length + index) :
      rendering.place index ≤ rendering.columnNames.length + index := by
    unfold place
    cases found : rendering.columnNames.idxOf? (some (rendering.elementName index)) with
    | none => exact behind
    | some place =>
      obtain ⟨inside, -, -⟩ := List.idxOf?_eq_some_iff.mp found
      rw [Option.getD_some]
      omega
  induction index with
  | zero => exact ⟨Nat.zero_le _, place_le (Nat.zero_le _)⟩
  | succ index ih =>
    have behind : rendering.following (index + 1) ≤ rendering.columnNames.length + (index + 1) :=
      Nat.succ_le_succ ih.2
    exact ⟨behind, place_le behind⟩

theorem ToldApart.eq_of_idxOf? {count : Nat} (apart : rendering.ToldApart count) {index : Nat}
    (inside : index < count) {place : Nat}
    (found : rendering.columnNames.idxOf? (some (rendering.elementName index)) = some place) :
    place = index := by
  obtain ⟨below, same, first⟩ := List.idxOf?_eq_some_iff.mp found
  rw [elementName] at same first
  cases own : rendering.columnNames[index]?.join with
  | none =>
    rw [own, Option.getD_none] at same
    exact absurd (same ▸ List.getElem_mem below) (apart.unnamed index inside own)
  | some name =>
    rw [own, Option.getD_some] at same first
    obtain ⟨below', own⟩ := List.getElem?_eq_some_iff.mp (Option.join_eq_some_iff.mp own)
    rcases Nat.lt_trichotomy place index with before | here | behind
    · have different := List.pairwise_iff_getElem.mp apart.named place index
        (by rw [List.length_take]; omega) (by rw [List.length_take]; omega) before
      rw [List.getElem_take, List.getElem_take, same, own] at different
      exact absurd rfl (different.resolve_left (Option.some_ne_none name))
    · exact here
    · exact absurd own (first index behind)

/-! ### The columns that are written -/

/-- Columns that are all set and not left out are written in elements of their names. -/
theorem listed_map_some (inside : rendering.style.attributes = false)
    (unstripped : rendering.converters.strip = false) (all : rendering.leaves = fun _ => false)
    (values : List (List Char)) :
    rendering.listed (values.map some) = values.zipIdx.map fun (value, index) =>
      ⟨index + 1, rendering.elementName index, value⟩ := by
  rw [listed, List.zipIdx_map, List.filterMap_map, ← List.filterMap_eq_map]
  apply List.filterMap_congr
  rintro ⟨value, index⟩ -
  simp [shownColumn?_eq, all, shownValue, unstripped, elementName, fallbackName, inside]

end Rendering

namespace Recovery

variable {recovery : Recovery} {rendering : Rendering} {separator : List Char}

/-- **A recovery reads columns without numbers**: it has the names of a rendering that writes all
    columns of delimited lines in elements. -/
structure Unnumbered (recovery : Recovery) (rendering : Rendering) (separator : List Char) : Prop
    extends Mirrors recovery rendering where
  layout : recovery.layout = rendering.layout
  names : recovery.columnNames = rendering.columnNames
  unconverted : ∀ index, recovery.converters.converter? index = none
  unstripped : rendering.converters.strip = false
  inside : rendering.style.attributes = false
  unnumbered : rendering.style.columnNumbers = false
  all : rendering.leaves = fun _ => false
  chosen : rendering.layout = some (.delimited separator)
  nonempty : separator ≠ []

namespace Unnumbered

/-- **An element of a column leads to the first column of its name**, and nowhere if its name is not
    configured: then it is that of columns without one, and has no number behind it. -/
theorem positionOfName?_elementName (reads : recovery.Unnumbered rendering separator)
    (index : Nat) :
    recovery.positionOfName? (rendering.elementName index) =
      (rendering.columnNames.idxOf? (some (rendering.elementName index))).map UInt64.ofNat := by
  unfold positionOfName?
  rw [reads.names]
  cases found : rendering.columnNames.idxOf? (some (rendering.elementName index)) with
  | some place => rfl
  | none =>
    -- A column that has a name is configured under it, so this one has none.
    have unnamed : rendering.columnNames[index]?.join = none := by
      cases own : rendering.columnNames[index]?.join with
      | none => rfl
      | some name =>
        have configured : some name ∈ rendering.columnNames :=
          List.mem_of_getElem? (Option.join_eq_some_iff.mp own)
        have elementName : rendering.elementName index = name := by
          rw [Rendering.elementName, own, Option.getD_some]
        rw [elementName, List.idxOf?_eq_none_iff] at found
        exact absurd configured found
    have bare : rendering.elementName index = rendering.style.columnName.toList ++ [] := by
      rw [Rendering.elementName, unnamed, Option.getD_none, List.append_nil]
    rw [bare, reads.style]
    dsimp only
    rw [Text.after?_append]
    rfl

theorem leads_placed (reads : recovery.Unnumbered rendering separator)
    (values : List (List Char)) (index : Nat) :
    Record.Leads (UInt64.ofNat (rendering.following index))
      ((values.zipIdx index).map fun (value, index) =>
        (recovery.positionOfName? (rendering.elementName index), value))
      ((values.zipIdx index).map fun (value, index) => (rendering.place index, value)) := by
  induction values generalizing index with
  | nil => exact .nil
  | cons value values ih =>
    rw [List.zipIdx_cons, List.map_cons, List.map_cons]
    refine .cons ?_ ?_
    · rw [reads.positionOfName?_elementName, Rendering.place]
      cases rendering.columnNames.idxOf? (some (rendering.elementName index)) <;> rfl
    · rw [← UInt64.ofNat_one, ← UInt64.ofNat_add]
      exact ih (index + 1)

theorem shownColumns_eq (reads : recovery.Unnumbered rendering separator) (columns : Columns) :
    rendering.shownColumns columns = rendering.listed columns :=
  if_neg (by rw [reads.inside]; exact Bool.false_ne_true)

/-- The columns of a line as they are met. -/
theorem sightedElements_eq (reads : recovery.Unnumbered rendering separator)
    (values : List (List Char)) :
    recovery.sightedElements rendering (rendering.shownColumns (values.map some)) =
      values.zipIdx.map fun (value, index) =>
        (recovery.positionOfName? (rendering.elementName index), value) := by
  have names := Rendering.shownColumns_names reads.proper reads.column (values.map some)
  rw [sightedElements]
  rw [reads.shownColumns_eq, rendering.listed_map_some reads.inside reads.unstripped reads.all]
    at names ⊢
  rw [List.map_map]
  apply List.map_congr_left
  rintro ⟨value, index⟩ member
  have named := names ⟨index + 1, rendering.elementName index, value⟩
    (List.mem_map.mpr ⟨_, member, rfl⟩)
  exact congrArg (·, value) (positionOfTag?_unnumbered reads.unnumbered named)

/-- **A line comes back by the places of its columns.** -/
theorem line_gathered (reads : recovery.Unnumbered rendering separator) {line : List Char}
    (few : rendering.columnNames.length + line.length + 1 < UInt64.size) :
    recovery.line (recovery.gathered rendering line) = .ok (rendering.regained line) := by
  obtain ⟨values, divided⟩ := Rendering.exists_extracted_delimited reads.chosen line
  have short := Rendering.length_extracted_delimited reads.chosen reads.nonempty line
  rw [divided, List.length_map] at short
  have gathers := @Record.gather_columns {} _ _ (reads.leads_placed values 0)
  rw [gathered, if_neg (by rw [reads.inside]; exact Bool.false_ne_true), Rendering.regained,
    divided, reads.sightedElements_eq, Columns.getD_some, ← reads.layout]
  by_cases nothing : values = []
  · rw [nothing]
    exact congrArg Except.ok (compose_nil recovery.layout).symm
  · apply line_of_cells reads.unconverted
    · rw [Rendering.placed, ne_eq, List.map_eq_nil_iff, List.zipIdx_eq_nil_iff]
      exact nothing
    · intro cell member
      obtain ⟨⟨value, index⟩, there, rfl⟩ := List.mem_map.mp member
      have below := (List.mem_zipIdx there).2.1
      have place := (rendering.place_le index).2
      dsimp only
      omega
    · exact gathers

/-- A column that the names tell apart from the others is found under its name. -/
theorem finds_of_toldApart (reads : recovery.Unnumbered rendering separator) {columns : Columns}
    (apart : rendering.ToldApart columns.length) :
    ∀ column ∈ rendering.shownColumns columns, recovery.Finds rendering column := by
  intro column member
  rw [reads.shownColumns_eq] at member
  obtain ⟨index, small, number, name⟩ := Rendering.eq_of_mem_listed member
  have elementName : column.name = rendering.elementName index := by
    rw [name, Rendering.fallbackName, if_neg (by rw [reads.inside]; exact Bool.false_ne_true)]
    rfl
  constructor
  · intro attributes
    rw [reads.inside] at attributes
    cases attributes
  · rw [elementName, reads.positionOfName?_elementName, Rendering.cell, number]
    cases found : rendering.columnNames.idxOf? (some (rendering.elementName index)) with
    | none => exact .inl rfl
    | some place =>
      rw [apart.eq_of_idxOf? small found]
      exact .inr rfl

/-- **A line of columns that the names tell apart comes back as it was.** -/
theorem regained_eq (reads : recovery.Unnumbered rendering separator) {line : List Char}
    (few : rendering.columnNames.length + line.length + 1 < UInt64.size)
    (apart : rendering.ToldApart (rendering.extracted line).length) :
    rendering.regained line = line := by
  have whole := line_gathered_of_finds reads.toMirrors reads.layout reads.unconverted
    reads.unstripped (.inr reads.unnumbered) reads.chosen reads.nonempty reads.all
    (Nat.lt_of_le_of_lt (by omega) few) (reads.finds_of_toldApart apart)
  exact Except.ok.inj ((reads.line_gathered few).symm.trans whole)

end Unnumbered

end Recovery

namespace Conversion

variable {settings : Settings} {custom : Option LineSplitter} {conversion : Conversion}
  {source : Source}

theorem Made.named_eq (made : Made settings custom conversion)
    (configured : settings.namesFromHeaderLine = none) (header : List (List Char)) :
    conversion.rendering.named header = conversion.rendering := by
  have none_given : conversion.rendering.style.namesLine = none := by
    rw [← made.same] at configured
    exact congrArg (Option.map UInt64.toNat) configured
  rw [Rendering.named, none_given]
  rfl

section

variable [MultibyteCodecs]

/-- **Delimited files whose columns stand in elements without numbers** come back by the places of
    their columns, and a line of columns that the names tell apart comes back as it was.  There must
    be a word for each place. -/
theorem givesBack_unnumbered (accepted : new? settings custom = .ok conversion)
    (transparent : Transparent settings) (selected : settings.layout = some .delimited)
    (inside : settings.columnsAsAttributes = false)
    (unnumbered : settings.emitColumnNumbers = false)
    (configured : settings.namesFromHeaderLine = none)
    (kept : settings.skipAnyEmptyColumn = false)
    (kept' : settings.skipEmptyDefaultNamedColumns = false) (served : source.failure? = none)
    (few : ∀ line ∈ conversion.body source,
      settings.columnNames.length + line.length + 1 < UInt64.size) (path : String) :
    conversion.GivesBack source path ((conversion.header source).map hyphensApart
        ++ (conversion.body source).map conversion.rendering.regained)
      ∧ ∀ line ∈ conversion.body source,
        conversion.rendering.ToldApart (conversion.rendering.extracted line).length →
        conversion.rendering.regained line = line := by
  have made := made_of_new? accepted
  obtain ⟨separator, chosen, nonempty⟩ := made.delimited selected
  have same := made.named_eq configured (conversion.header source)
  have faithful := made.faithful transparent.escaping transparent.unconverted
    (conversion.header source)
  have mirrors := made.mirrors (by rw [chosen]; rfl) (conversion.header source)
  rw [same] at mirrors
  have unstripped := transparent.unstripped
  rw [← made.same] at inside unnumbered unstripped kept kept' few
  have reads : conversion.recovery.Unnumbered conversion.rendering separator :=
    ⟨mirrors, rfl, rfl, faithful.unconverted, unstripped, inside, unnumbered,
      Rendering.leaves_eq_false kept kept', chosen, nonempty⟩
  have names : conversion.rendering.columnNames.length = conversion.settings.columnNames.length :=
    List.length_map _
  rw [← names] at few
  constructor
  · apply givesBack_of_gathered transparent made chosen (Rendering.total_delimited separator) served
    rw [same]
    exact fun line member => reads.line_gathered (few line member)
  · intro line member apart
    exact reads.regained_eq (few line member) apart

end

/-- Settings without column numbers, where two columns have one name. -/
def repeatingSettings : Settings :=
  { layout := some .delimited, separator := some ",", columnNames := ["a", "", "a"],
    emitColumnNumbers := false, emitXmlDeclaration := false }

/-- Columns that are told apart, and behind them one that goes to the first place again, so that the
    one after it goes to the second. -/
theorem givesBack_unnumbered_repeating :
    ∃ assembly, wrap ⟨repeatingSettings, .utf8, none, some (.delimited [','])⟩
        [.data (Charset.utf8.encode "x,<\n1,2,3,4\n".toList)] "f.txt" = .ok assembly
      ∧ ∃ blocks : List (List UInt8), assembly.drain.1.map Prod.fst = blocks.map .ok
        ∧ (recover ⟨repeatingSettings, .utf8, none, some (.delimited [','])⟩
          (.ofBytes blocks.flatten) {}).result = .ok 2
        ∧ (recover ⟨repeatingSettings, .utf8, none, some (.delimited [','])⟩
          (.ofBytes blocks.flatten) {}).sink.accepted =
            Charset.utf8.encode "x,<\n3,4\n".toList
        ∧ (Conversion.rendering ⟨repeatingSettings, .utf8, none,
          some (.delimited [','])⟩).regained "x,<".toList = "x,<".toList := by
  have body : Conversion.body ⟨repeatingSettings, .utf8, none, some (.delimited [','])⟩
      [.data (Charset.utf8.encode "x,<\n1,2,3,4\n".toList)] =
        ["x,<".toList, "1,2,3,4".toList] := rfl
  obtain ⟨⟨assembly, made, blocks, produced, recovered⟩, apart⟩ := @givesBack_unnumbered
    repeatingSettings none ⟨repeatingSettings, .utf8, none, some (.delimited [','])⟩
    [.data (Charset.utf8.encode "x,<\n1,2,3,4\n".toList)] _ rfl
    ⟨rfl, rfl, by decide, rfl, rfl, fun _ inside => absurd inside List.not_mem_nil⟩
    rfl rfl rfl rfl rfl rfl rfl (by rw [body]; decide) "f.txt"
  obtain ⟨result, accepted⟩ := recovered (.ofBytes blocks.flatten) (Source.failure?_ofBytes _)
    (Source.bytes_ofBytes _) {} ⟨nofun, rfl, rfl⟩
  have same := apart "x,<".toList (by rw [body]; exact List.mem_cons_self) ⟨by decide, by decide⟩
  exact ⟨assembly, made, blocks, produced, result.trans rfl, accepted.trans rfl, same⟩

/-- Columns of one name are written in elements of that name, and the last one overwrites the
    others: of two columns one comes back. -/
theorem repeated_name_overwrites :
    new? { repeatingSettings with columnNames := ["a", "a"] } none =
        .ok ⟨{ repeatingSettings with columnNames := ["a", "a"] }, .utf8, none,
          some (.delimited [','])⟩
      ∧ ∃ assembly, wrap ⟨{ repeatingSettings with columnNames := ["a", "a"] }, .utf8, none,
            some (.delimited [','])⟩
          [.data (Charset.utf8.encode "x,y".toList)] "f.txt" = .ok assembly
      ∧ (assembly.handed 4).map (Option.map Except.toOption) =
        [some (some (Charset.utf8.encode
            "<DocElement name=\"f.txt\" location=\"f.txt\">\n".toList)),
          some (some (Charset.utf8.encode
            "  <Line number=\"1\">\n    <a>x</a>\n    <a>y</a>\n  </Line>\n".toList)),
          some (some (Charset.utf8.encode "</DocElement>".toList)), none]
      ∧ (recover ⟨{ repeatingSettings with columnNames := ["a", "a"] }, .utf8, none,
            some (.delimited [','])⟩
          (.ofBytes (Charset.utf8.encode ("<DocElement name=\"f.txt\" location=\"f.txt\">\n" ++
            "  <Line number=\"1\">\n    <a>x</a>\n    <a>y</a>\n  </Line>\n" ++
            "</DocElement>").toList)) {}).sink.accepted =
        Charset.utf8.encode "y\n".toList := by
  have made : wrap ⟨{ repeatingSettings with columnNames := ["a", "a"] }, .utf8, none,
      some (.delimited [','])⟩
    [.data (Charset.utf8.encode "x,y".toList)] "f.txt" = .ok _ := rfl
  refine ⟨rfl, _, made, ?_, ?_⟩
  · decide +kernel
  · decide +kernel

end Conversion

end FlatFile
