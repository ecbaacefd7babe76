/-
  FlatFile/Proofs/Recovery/Lines.lean
  ===================================
  **Every part of a document gives back the line it was made of.**

  Between two parts of the root nothing is at hand (`RecoveryState.Idle`), so a part
  can be handled from any such state: `Writes` says that some passages write certain
  lines, and such passages can be put one after the other.  Inside of a line element the
  columns gather in a record (`handlePassages_columns`); at its end the line of that
  record is written.  The root of a document thus gives back the header lines and the
  line of the record that each further line makes (`Accords.writes_rootNode`).  Where
  columns tell their positions, that is the line up to what a layout loses
  (`Reverses.line_gathered`).
-/
import FlatFile.Proofs.Recovery.Events
import FlatFile.Proofs.Recovery.Positions

namespace FlatFile

open Markup

/-! ### Writing -/

/-- A sink that takes everything. -/
structure Sink.Open (sink : Sink) : Prop where
  widest : sink.widest ≠ some 0
  room : sink.room = none
  flushes : sink.flushFailure = none

theorem Sink.Open.writeAll {sink : Sink} (free : sink.Open) (bytes : List UInt8) :
    ∃ after, sink.writeAll bytes = (none, after) ∧ after.Open := by
  unfold Sink.writeAll
  by_cases empty : bytes = []
  · rw [if_pos (by simpa using empty)]
    exact ⟨sink, rfl, free⟩
  · rw [if_neg (by simpa using empty), free.room, if_neg (by simp), if_neg free.widest]
    refine ⟨sink.take bytes, rfl, free.widest, ?_, free.flushes⟩
    rw [Sink.take, free.room, Option.map_none]

/-- Nothing is at hand, and the lines go somewhere. -/
structure RecoveryState.Idle (state : RecoveryState) : Prop where
  record : state.record = none
  column : state.column = none
  sink : state.sink.Open

theorem RecoveryState.Idle.addText {state : RecoveryState} (idle : state.Idle) (raw : List Char) :
    state.addText raw = state := by
  rcases state with ⟨decoder, reader, record, column, written, sink⟩
  rcases idle with ⟨rfl, rfl, -⟩
  rfl

variable [MultibyteCodecs]

namespace Recovery

/-- Since a state some lines were written. -/
structure Wrote (recovery : Recovery) (state : RecoveryState) (lines : List (List Char))
    (after : RecoveryState) : Prop extends recovery.Adds state lines after where
  idle : after.Idle

/-- **The passages write the lines**, whatever was written before. -/
def Writes (recovery : Recovery) (between : List Passage) (lines : List (List Char)) : Prop :=
  ∀ state : RecoveryState, state.Idle →
    ∃ after, recovery.handlePassages state between = (none, after)
      ∧ recovery.Wrote state lines after

variable {recovery : Recovery} {between more : List Passage} {lines others : List (List Char)}

theorem Wrote.trans {state middle after : RecoveryState} (first : recovery.Wrote state lines middle)
    (second : recovery.Wrote middle others after) :
    recovery.Wrote state (lines ++ others) after :=
  ⟨first.toAdds.trans second.toAdds, second.idle⟩

theorem Writes.nil (recovery : Recovery) : recovery.Writes [] [] :=
  fun state idle => ⟨state, rfl, .nil _ _, idle⟩

theorem Writes.append (first : recovery.Writes between lines)
    (second : recovery.Writes more others) :
    recovery.Writes (between ++ more) (lines ++ others) := by
  intro state idle
  obtain ⟨middle, handled, wrote⟩ := first state idle
  obtain ⟨after, handled', wrote'⟩ := second middle wrote.idle
  exact ⟨after, by rw [handlePassages_append handled, handled'], wrote.trans wrote'⟩

theorem Writes.flatMap {α : Type} {parts : List α} {passagesOf : α → List Passage}
    {lineOf : α → List Char}
    (each : ∀ part ∈ parts, recovery.Writes (passagesOf part) [lineOf part]) :
    recovery.Writes (parts.flatMap passagesOf) (parts.map lineOf) := by
  induction parts with
  | nil => exact .nil recovery
  | cons part parts ih =>
    rcases List.forall_mem_cons.mp each with ⟨here, others⟩
    exact here.append (ih others)

/-- A piece of markup that does nothing outside of line elements. -/
theorem writes_nothing {event : Event} (before : List Char)
    (nothing : ∀ state : RecoveryState, state.Idle → recovery.handle state event = (none, state)) :
    recovery.Writes [⟨before, event⟩] [] := by
  intro state idle
  refine ⟨state, handlePassages_cons ?_, .nil _ _, idle⟩
  rw [idle.addText]
  exact nothing state idle

theorem writes_otherStart {tag : Tag} (other : recovery.isLineName tag.name ≠ true)
    (before : List Char) : recovery.Writes [⟨before, .start tag⟩] [] := by
  apply writes_nothing before
  intro state idle
  rw [handle]
  simp only [idle.record]
  exact congrArg (none, ·) (if_neg other)

theorem writes_otherFinish (recovery : Recovery) (name before : List Char) :
    recovery.Writes [⟨before, .finish name⟩] [] := by
  apply writes_nothing before
  intro state idle
  rw [handle]
  simp only [idle.record, idle.column]

theorem write_of_idle {state : RecoveryState} (idle : state.Idle) (line : List Char) :
    ∃ after, recovery.write state line = (none, after) ∧ recovery.Wrote state [line] after := by
  obtain ⟨sink, taken, free⟩ := idle.sink.writeAll (recovery.lineBytes line)
  have written : recovery.write state line =
      (none, { state with sink, written := state.written + 1 }) := by rw [write, taken]
  exact ⟨_, written, adds_of_write written, idle.record, idle.column, free⟩

/-! ### Header lines -/

end Recovery

/-- A text with a space between any two hyphens that stand side by side. -/
def hyphensApart : List Char → List Char
  | c :: d :: rest =>
    if c = '-' ∧ d = '-' then c :: ' ' :: hyphensApart (d :: rest)
    else c :: hyphensApart (d :: rest)
  | text => text

namespace Recovery

variable {recovery : Recovery}

section

omit [MultibyteCodecs]

theorem spreadHyphens_cons (c : Char) (rest : List Char) :
    spreadHyphens false (c :: rest) = c :: spreadHyphens (c = '-') rest := by
  rw [spreadHyphens, if_neg (by simp)]

theorem spreadHyphens_eq (text : List Char) : spreadHyphens false text = hyphensApart text := by
  induction text with
  | nil => rfl
  | cons c rest ih =>
    rw [spreadHyphens_cons]
    cases rest with
    | nil => rfl
    | cons d rest =>
      rw [spreadHyphens_cons] at ih
      rw [hyphensApart, ← ih, spreadHyphens]
      by_cases dash : c = '-'
      · by_cases dash' : d = '-'
        · simp [dash, dash']
        · simp [dash, dash']
      · simp [dash]

/-- **The comment of a header line** gives the line back, with its hyphens apart. -/
theorem headerLine_commentBody (line : List Char) :
    headerLine (commentBody line) = hyphensApart line := by
  have body : commentBody line = ' ' :: (hyphensApart line ++ [' ']) := by
    rw [commentBody, spreadHyphens_eq, List.cons_append]
  have reversed : (hyphensApart line ++ [' ']).reverse = ' ' :: (hyphensApart line).reverse :=
    List.reverse_append
  rw [body]
  simp only [headerLine, reversed, List.reverse_reverse]

end

theorem writes_comment (before line : List Char) :
    recovery.Writes ((Node.comment (commentBody line)).outline before).1 [hyphensApart line] := by
  intro state idle
  obtain ⟨after, written, wrote⟩ := write_of_idle idle (hyphensApart line)
  refine ⟨after, handlePassages_cons ?_, wrote⟩
  rw [idle.addText, handle]
  simp only [idle.record, headerLine_commentBody, written]

/-! ### Columns in elements -/

theorem handlePassages_columnElement (name : List Char) (facts : List (List Char × List Char))
    (value before : List Char) {state : RecoveryState} {record : Record}
    (inside : state.record = some record) (between : state.column = none) :
    recovery.handlePassages state ((Node.element name facts (textNodes value)).outline before).1 =
      (none, { state with
        record := some ((record.addText before).addColumn
          (recovery.positionOfTag? (writtenTag name facts)) (escape value)) }) := by
  rcases state with ⟨decoder, reader, record', column, written, sink⟩
  cases inside
  cases between
  cases value with
  | nil => rfl
  | cons c value =>
    have content : Growing.toList (Growing.empty.add (escape (c :: value))) = escape (c :: value) :=
      Growing.toList_add Growing.empty _
    simp only [textNodes, List.isEmpty_cons, Bool.false_eq_true, if_false, Node.outline, outline,
      List.nil_append, List.append_nil, handlePassages, handle, RecoveryState.addText,
      Option.map_some, content]

/-- The tag of a column element. -/
def columnTag (rendering : Rendering) (column : WrittenColumn) : Tag :=
  writtenTag column.name
    (if rendering.style.columnNumbers then [Rendering.numberPair column.number] else [])

/-- The column elements of a line as they are met. -/
def sightedElements (recovery : Recovery) (rendering : Rendering) (columns : List WrittenColumn) :
    List Record.Sighting :=
  columns.map fun column =>
    (recovery.positionOfTag? (columnTag rendering column), column.value)

variable {rendering : Rendering}

/-- **The columns of a line gather in its record**, with the blanks before them as its text. -/
theorem handlePassages_columns (rendering : Rendering) (columns : List WrittenColumn)
    (before : List Char) {state : RecoveryState} {record : Record}
    (inside : state.record = some record) (between : state.column = none) :
    ∃ text, recovery.handlePassages state
        (columns.flatMap fun column => ((rendering.columnNode column).outline before).1) =
      (none, { state with
        record := some ((record.gather (recovery.sightedElements rendering columns)).withText text)
      }) := by
  induction columns generalizing state record with
  | nil =>
    refine ⟨record.text, ?_⟩
    rcases state with ⟨decoder, reader, record', column, written, sink⟩
    cases inside
    rfl
  | cons column columns ih =>
    have first := @handlePassages_columnElement _ recovery column.name
      (if rendering.style.columnNumbers then [Rendering.numberPair column.number] else [])
      column.value before state record inside between
    generalize position : recovery.positionOfTag? (columnTag rendering column) = position'
    rw [columnTag] at position
    rw [position] at first
    -- The blanks are text of the record, whether they come before the column or not.
    have blanks : (record.addText before).addColumn position' (escape column.value) =
        (record.addColumn position' (escape column.value)).withText (record.text.add before) := rfl
    rw [blanks] at first
    obtain ⟨text, handled⟩ := @ih { state with
      record := some ((record.addColumn position' (escape column.value)).withText
        (record.text.add before)) } _ rfl between
    rw [Record.gather_withText] at handled
    have all : record.gather (recovery.sightedElements rendering (column :: columns)) =
        (record.addColumn position' (escape column.value)).gather
          (recovery.sightedElements rendering columns) := by
      rw [← position]
      rfl
    refine ⟨text, ?_⟩
    rw [List.flatMap_cons, Rendering.columnNode, handlePassages_append first, handled, all]
    rfl

end Recovery

/-! ### Line elements -/

omit [MultibyteCodecs] in
theorem Markup.localName_of_isName {name : List Char} (named : isName name = true) :
    localName name = name := by
  have plain : name.dropWhile (· != ':') = [] := by
    rw [List.dropWhile_eq_nil_iff]
    intro c inside
    exact bne_iff_ne.mpr (ne_of_isNameChar (isNameChar_of_mem named inside) (by decide))
  rw [localName, plain]

/-- The line that comes back from the document of a line. -/
def Rendering.restored (rendering : Rendering) (line : List Char) : List Char :=
  ColumnLayout.compose rendering.layout
    (((rendering.extracted line).sparing rendering.leaves 0).trimmed.map (·.getD []))

namespace Recovery

variable {recovery : Recovery} {rendering : Rendering}

/-- **A recovery reads what a rendering writes**: both have one style, and lines are divided by some
    layout. -/
structure Mirrors (recovery : Recovery) (rendering : Rendering) : Prop where
  style : recovery.style = rendering.style
  divided : rendering.layout.isNone = false
  line : isName rendering.style.lineName.toList = true
  column : isName rendering.style.columnName.toList = true
  proper : rendering.ProperNames

/-- **A recovery undoes a rendering** that has the same layout, does not convert values and tells
    the positions of columns. -/
structure Reverses (recovery : Recovery) (rendering : Rendering) : Prop
    extends Mirrors recovery rendering where
  layout : recovery.layout = rendering.layout
  unconverted : ∀ index, recovery.converters.converter? index = none
  unstripped : rendering.converters.strip = false
  locates : recovery.Locates rendering

/-- The columns of a line that are attributes as they are met. -/
def sightedAttributes (recovery : Recovery) (columns : List WrittenColumn) :
    List Record.Sighting :=
  (columns.filter fun column => !isReserved column.name).map fun column =>
    (recovery.positionOfName? column.name, column.value)

/-- **The record that the element of a line makes.** -/
def gathered (recovery : Recovery) (rendering : Rendering) (line : List Char) : Record :=
  Record.gather {}
    (if rendering.style.attributes then
      recovery.sightedAttributes (rendering.shownColumns (rendering.extracted line))
    else recovery.sightedElements rendering (rendering.shownColumns (rendering.extracted line)))

section

omit [MultibyteCodecs]

theorem isLineName_iff (recovery : Recovery) {name : List Char} (named : isName name = true) :
    recovery.isLineName name = true ↔ name = recovery.style.lineName.toList := by
  rw [isLineName, localName_of_isName named, beq_iff_eq]

theorem isLineName_lineName (style : recovery.style = rendering.style)
    (line : isName rendering.style.lineName.toList = true) :
    recovery.isLineName rendering.style.lineName.toList = true := by
  rw [isLineName_iff recovery line, style]

theorem not_isLineName_rootName (style : recovery.style = rendering.style)
    (root : isName rendering.style.rootName.toList = true)
    (apart : rendering.style.rootName ≠ rendering.style.lineName) :
    recovery.isLineName rendering.style.rootName.toList ≠ true := by
  rw [ne_eq, isLineName_iff recovery root, style]
  exact fun same => apart (String.toList_injective same)

theorem opened_writtenTag (recovery : Recovery) {name : List Char}
    {attributes : List (List Char × List Char)}
    (keys : ∀ key ∈ attributes.map Prod.fst, isName key = true)
    (distinct : (attributes.map Prod.fst).Nodup) :
    recovery.opened (writtenTag name attributes) =
      (attributes.filter fun (key, _) => !isReserved key).foldl
        (fun record (key, value) => record.addColumn (recovery.positionOfName? key) (escape value))
        {} := by
  rw [opened, attributes_writtenTag keys distinct, List.filter_map, List.foldl_map]
  rfl

theorem filter_lineFacts (rendering : Rendering) (number : Nat) (line : List Char) :
    (rendering.lineFacts number line).filter (fun (key, _) => !isReserved key) = [] := by
  rw [List.filter_eq_nil_iff]
  rintro ⟨key, value⟩ inside
  have reserved : key ∈ rendering.style.reservedNames := by
    rw [← Rendering.lineFacts_keys rendering number line]
    exact List.mem_map_of_mem inside
  simp [DocumentStyle.isReserved_of_mem reserved]

/-- A tag without columns starts an empty record. -/
theorem opened_of_reserved (recovery : Recovery) {attributes : List Attribute}
    (wellFormed : ∀ written ∈ attributes, written.WellFormed)
    (distinct : (attributes.map Attribute.name).Nodup)
    (reserved : ∀ written ∈ attributes, isReserved written.name = true) (name : List Char) :
    recovery.opened ⟨name, attributes.flatMap Attribute.render⟩ = {} := by
  have none_left : (attributes.map fun written => (written.name, written.value)).filter
      (fun (key, _) => !isReserved key) = [] := by
    rw [List.filter_eq_nil_iff]
    intro pair inside
    rcases List.mem_map.mp inside with ⟨written, member, rfl⟩
    simp [reserved written member]
  rw [opened, attributes_flatMap_render wellFormed distinct, none_left]
  rfl

theorem opened_lineFacts (recovery : Recovery) (rendering : Rendering) (name : List Char)
    (number : Nat) (line : List Char) :
    recovery.opened (writtenTag name (rendering.lineFacts number line)) = {} := by
  obtain ⟨distinct, keys⟩ := Rendering.lineFacts_proper rendering number line
  rw [opened_writtenTag recovery keys distinct, filter_lineFacts]
  rfl

/-- **Columns that are attributes gather in the record** of their tag. -/
theorem opened_columns (recovery : Recovery) (name : List Char) (number : Nat) (line : List Char)
    (columns : List WrittenColumn)
    (keys : ∀ key ∈ (rendering.lineFacts number line ++
      columns.map fun column => (column.name, column.value)).map Prod.fst, isName key = true)
    (distinct : ((rendering.lineFacts number line ++
      columns.map fun column => (column.name, column.value)).map Prod.fst).Nodup) :
    recovery.opened (writtenTag name (rendering.lineFacts number line ++
      columns.map fun column => (column.name, column.value))) =
        Record.gather {} (recovery.sightedAttributes columns) := by
  rw [opened_writtenTag recovery keys distinct, List.filter_append, filter_lineFacts,
    List.nil_append, List.filter_map, List.foldl_map, sightedAttributes, Record.gather,
    List.foldl_map]
  rfl

end

theorem writes_emptyLine {tag : Tag} {line : List Char}
    (named : recovery.isLineName tag.name = true)
    (composed : recovery.line (recovery.opened tag) = .ok line) (before : List Char) :
    recovery.Writes [⟨before, .empty tag⟩] [line] := by
  intro state idle
  obtain ⟨after, written, wrote⟩ := write_of_idle idle line
  refine ⟨after, handlePassages_cons ?_, wrote⟩
  rw [idle.addText, handle]
  simp only [idle.record, named, if_true, writeRecord, composed, written]

theorem handle_finish {state : RecoveryState} {record : Record} {name : List Char}
    (inside : state.record = some record) (between : state.column = none)
    (named : recovery.isLineName name = true) :
    recovery.handle state (.finish name) =
      recovery.writeRecord { state with record := none } record := by
  rw [handle]
  simp only [inside, between, named, if_true]

theorem Mirrors.writes_elements (mirrors : recovery.Mirrors rendering) (number : Nat)
    {line restored : List Char} {columns : List WrittenColumn} (some_column : columns ≠ [])
    (composed : recovery.line (Record.gather {} (recovery.sightedElements rendering columns)) =
      .ok restored) (before : List Char) :
    recovery.Writes ((Node.element rendering.style.lineName.toList (rendering.lineFacts number line)
        (laidOut 1 (columns.map rendering.columnNode))).outline before).1 [restored] := by
  intro state idle
  -- The tag of the line starts a record, its columns gather in it, and its end writes the line.
  have markup : ∀ part ∈ columns.map rendering.columnNode, ∀ text, part ≠ .text text := by
    intro part inside text
    rcases List.mem_map.mp inside with ⟨column, -, rfl⟩
    exact nofun
  have filled : (laidOut 1 (columns.map rendering.columnNode)).isEmpty = false := by
    simp [laidOut]
  have named := isLineName_lineName mirrors.style mirrors.line
  have begun : recovery.handle (state.addText before) (.start (writtenTag
      rendering.style.lineName.toList (rendering.lineFacts number line))) =
      (none, { state with record := some {} }) := by
    rw [idle.addText, handle]
    simp only [idle.record, writtenTag_name, named, if_true, opened_lineFacts]
  obtain ⟨text, handled⟩ := @handlePassages_columns _ recovery rendering columns (lineBreak 2)
    { state with record := some {} } {} rfl idle.column
  generalize whole : Record.gather {} (recovery.sightedElements rendering columns) = record
    at composed handled
  have columns_set : record.columns ≠ [] := by
    rw [← whole]
    exact Record.gather_columns_ne_nil _ (by simpa [sightedElements] using some_column)
  obtain ⟨after, written, wrote⟩ := write_of_idle idle restored
  refine ⟨after, ?_, wrote⟩
  rw [Node.outline, filled, if_neg (by simp), handlePassages_cons begun, outline_laidOut 1 markup,
    List.flatMap_map, handlePassages_append handled]
  apply handlePassages_cons
  -- The blanks before the end tag are text of the record, which it does not use: it has columns.
  have closed : ({ state with record := some (record.withText text) } : RecoveryState).addText
      (lineBreak 1) =
      { state with record := some (record.withText (text.add (lineBreak 1))) } := by
    simp only [RecoveryState.addText, idle.column, Option.map_some]
    rfl
  have same : ({ state with record := none } : RecoveryState) = state := by
    rw [← idle.record]
  have finished := @handle_finish _ recovery { state with
    record := some (record.withText (text.add (lineBreak 1))) } _ _ rfl idle.column named
  rw [closed, finished, writeRecord, line_withText recovery record _ columns_set, composed]
  exact (congrArg (recovery.write · _) same).trans written

/-- **The element of a line writes the line of its record.** -/
theorem Mirrors.writes_lineNode (mirrors : recovery.Mirrors rendering) (number : Nat)
    {line restored : List Char}
    (composed : recovery.line (recovery.gathered rendering line) = .ok restored)
    (before : List Char) :
    recovery.Writes ((rendering.lineNode number line).outline before).1 [restored] := by
  have named := isLineName_lineName mirrors.style mirrors.line
  unfold Rendering.lineNode
  unfold gathered at composed
  dsimp only
  rw [if_neg (by rw [mirrors.divided]; exact Bool.false_ne_true)]
  -- Columns stand in elements of their own or are attributes; a line element without any is
  -- empty in both cases.
  by_cases attributes : rendering.style.attributes = true
  · rw [if_pos attributes] at composed ⊢
    obtain ⟨distinct, keys⟩ := Rendering.lineAttributes_proper mirrors.proper mirrors.column
      attributes number line (rendering.extracted line)
    apply writes_emptyLine named
    rw [opened_columns recovery _ number line _ keys distinct, composed]
  · rw [if_neg attributes] at composed ⊢
    by_cases none_shown : rendering.shownColumns (rendering.extracted line) = []
    · rw [if_pos none_shown]
      apply writes_emptyLine named
      rw [none_shown] at composed
      rw [opened_lineFacts]
      exact composed
    · rw [if_neg none_shown]
      exact mirrors.writes_elements number none_shown composed before

/-! ### Columns that tell their positions -/

section

omit [MultibyteCodecs]

theorem line_of_leads (unconverted : ∀ index, recovery.converters.converter? index = none)
    {columns : Columns} (few : columns.length < UInt64.size) {sightings : List Record.Sighting}
    (leads : Record.Leads 0 sightings columns.cells) :
    recovery.line (Record.gather {} sightings) =
      .ok (ColumnLayout.compose recovery.layout (columns.trimmed.map (·.getD []))) := by
  apply line_of_columns unconverted few
  · exact Record.gather_columns leads
  · intro
    rw [Record.gather_text]
    rfl

/-- Columns that tell their positions lead there. -/
theorem leads_of_positions {columns : List WrittenColumn} {position : WrittenColumn → Option UInt64}
    (tells : ∀ column ∈ columns,
      position column = some (UInt64.ofNat (Rendering.cell column).1)) (following : UInt64) :
    Record.Leads following (columns.map fun column => (position column, column.value))
      (columns.map Rendering.cell) := by
  induction columns generalizing following with
  | nil => exact .nil
  | cons column columns ih =>
    rcases List.forall_mem_cons.mp tells with ⟨here, others⟩
    refine .cons ?_ (ih others _)
    rw [here, Option.getD_some, Rendering.cell]

theorem few_listed {line : List Char} (few : (rendering.extracted line).length < UInt64.size)
    {column : WrittenColumn} (inside : column ∈ rendering.listed (rendering.extracted line)) :
    column.number = (Rendering.cell column).1 + 1
      ∧ (Rendering.cell column).1 + 1 < UInt64.size := by
  obtain ⟨index, below, number, -⟩ := Rendering.eq_of_mem_listed inside
  rw [Rendering.cell, number]
  exact ⟨rfl, by omega⟩

/-- Numbered elements lead to the columns that they were made of. -/
theorem leads_elements (recovery : Recovery) (numbered : rendering.style.columnNumbers = true)
    {line : List Char} (few : (rendering.extracted line).length < UInt64.size) :
    Record.Leads 0 (recovery.sightedElements rendering (rendering.listed (rendering.extracted line)))
      ((rendering.listed (rendering.extracted line)).map Rendering.cell) := by
  apply leads_of_positions
  intro column member
  obtain ⟨number, small⟩ := few_listed few member
  rw [columnTag, if_pos numbered, number]
  exact positionOfTag?_number recovery column.name small

/-- **The line of the record that a line makes** is what comes back of it. -/
theorem Reverses.line_gathered (reverses : recovery.Reverses rendering) {line : List Char}
    (few : (rendering.extracted line).length < UInt64.size) :
    recovery.line (recovery.gathered rendering line) = .ok (rendering.restored line) := by
  have length : ((rendering.extracted line).sparing rendering.leaves 0).length < UInt64.size := by
    simpa [Columns.sparing] using few
  rw [gathered, Rendering.shownColumns_eq reverses.locates, Rendering.restored, ← reverses.layout]
  apply line_of_leads reverses.unconverted length
  rw [← Rendering.map_cell_listed_unstripped reverses.unstripped]
  rcases reverses.locates with ⟨elements, numbered⟩ | ⟨inside, configured, given, plain⟩
  · rw [if_neg (by rw [elements]; exact Bool.false_ne_true)]
    exact recovery.leads_elements numbered few
  · rw [if_pos inside]
    have names := fun column (member : column ∈ rendering.listed (rendering.extracted line)) =>
      Rendering.name_of_mem_listed inside given member
    have kept : (rendering.listed (rendering.extracted line)).filter
        (fun column => !isReserved column.name) = rendering.listed (rendering.extracted line) := by
      rw [List.filter_eq_self]
      intro column member
      rw [names column member, DocumentStyle.isReserved_numberedName plain, Bool.not_false]
    rw [sightedAttributes, kept]
    apply leads_of_positions
    intro column member
    obtain ⟨number, small⟩ := few_listed few member
    rw [names column member, number, ← reverses.style]
    exact positionOfName?_numberedName configured small

end

/-! ### Documents -/

/-- **A recovery accords with a rendering**: both have one style, whose names are names, and a line
    element is not taken for the root. -/
structure Accords (recovery : Recovery) (rendering : Rendering) : Prop where
  style : recovery.style = rendering.style
  root : isName rendering.style.rootName.toList = true
  line : isName rendering.style.lineName.toList = true
  column : isName rendering.style.columnName.toList = true
  proper : rendering.ProperNames
  apart : rendering.style.rootName ≠ rendering.style.lineName

/-- **The element of a line writes one line**, wherever it stands and whatever its number. -/
def WritesBack (recovery : Recovery) (rendering : Rendering) (line restored : List Char) : Prop :=
  ∀ number before, recovery.Writes ((rendering.lineNode number line).outline before).1 [restored]

theorem Mirrors.writesBack (mirrors : recovery.Mirrors rendering) {line restored : List Char}
    (composed : recovery.line (recovery.gathered rendering line) = .ok restored) :
    recovery.WritesBack rendering line restored := by
  intro number before
  exact mirrors.writes_lineNode number composed before

variable {restored : List Char → List Char}

theorem writes_lineNodes (count : Nat) {body : List (List Char)}
    (each : ∀ line ∈ body, recovery.WritesBack rendering line (restored line))
    (before : List Char) :
    recovery.Writes ((rendering.lineNodes count body).flatMap fun part => (part.outline before).1)
      (body.map restored) := by
  have lines : (body.zipIdx (count + 1)).map (fun slot => restored slot.1) = body.map restored := by
    have same := congrArg (List.map restored) (List.zipIdx_map_fst (count + 1) body)
    rwa [List.map_map] at same
  rw [Rendering.lineNodes, List.flatMap_map, ← lines]
  apply Writes.flatMap
  intro slot inside
  exact each slot.1 (List.fst_mem_of_mem_zipIdx inside) slot.2 before

/-- **The root of a document writes its lines**: the header lines with their hyphens apart, then
    what comes back of each further line. -/
theorem Accords.writes_rootNode (accords : recovery.Accords rendering) (origin : Origin)
    (header : List (List Char)) {body : List (List Char)}
    (each : ∀ line ∈ body, recovery.WritesBack rendering line (restored line))
    (before : List Char) :
    recovery.Writes ((rendering.rootNode origin header body).outline before).1
      (header.map hyphensApart ++ body.map restored) := by
  have other := not_isLineName_rootName accords.style accords.root accords.apart
  have begun := @writes_otherStart _ recovery (writtenTag rendering.style.rootName.toList
    (rendering.rootFacts origin)) other before
  have finished := recovery.writes_otherFinish rendering.style.rootName.toList (lineBreak 0)
  have comments : recovery.Writes ((header.map fun line => Node.comment (commentBody line)).flatMap
      fun part => (part.outline (lineBreak 1)).1) (header.map hyphensApart) := by
    rw [List.flatMap_map]
    exact Writes.flatMap fun line _ => writes_comment (lineBreak 1) line
  have markup : ∀ part ∈ (header.map fun line => Node.comment (commentBody line))
      ++ rendering.lineNodes 0 body, ∀ text, part ≠ .text text := by
    intro part inside text
    rcases List.mem_append.mp inside with inside | inside
    · rcases List.mem_map.mp inside with ⟨line, -, rfl⟩
      intro same
      cases same
    · rcases List.mem_map.mp inside with ⟨slot, -, rfl⟩
      exact (Rendering.solid_lineNode accords.proper accords.line accords.column _ _).markup text
  have filled : (laidOut 0 ((header.map fun line => Node.comment (commentBody line))
      ++ rendering.lineNodes 0 body)).isEmpty = false := by
    simp [laidOut]
  rw [Rendering.rootNode, Node.outline, filled, if_neg (by simp), outline_laidOut 0 markup,
    List.flatMap_append]
  have parts := comments.append (writes_lineNodes 0 each (lineBreak 1))
  have all := begun.append (parts.append finished)
  rwa [List.append_nil] at all

end Recovery

end FlatFile
