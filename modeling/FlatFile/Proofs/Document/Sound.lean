/-
  FlatFile/Proofs/Document/Sound.lean
  ===================================
  **Values that are ready for a document cannot break it.**

  A line is written as an element around content if the values of its columns are ready,
  whatever converters they went through (`content_line`).  What else goes into a document
  is escaped, or a name that the charset of the document has, or a header line in a
  comment, which nothing can break.  So the document is well-formed and can be recovered
  (`sound_wrap`).

  A converter that passes a text through without escaping it takes this away: in the
  document of `numbersSettings` a value is taken for a tag (`markup_passed_through`).
-/
import FlatFile.Charset.AsciiOnly
import FlatFile.Proofs.Document.Attributes
import FlatFile.Proofs.Recovery.Sound
import FlatFile.Proofs.Value.Ready

namespace FlatFile

open Markup

/-! ### Names -/

section

variable [MultibyteCodecs]

theorem Charset.conveyed_declaration (charset : Charset) [charset.Lawful] :
    charset.conveyed (declaration charset.name) = declaration charset.name := by
  apply charset.conveyed_of_direct
  cases charset with
  | page codePage =>
    cases codePage with
    | _ => decide
  | multibyte set =>
    cases set with
    | _ => decide
  | _ => decide

/-- **The names of a document are in a charset.** -/
structure Rendering.Spelled (rendering : Rendering) (charset : Charset) : Prop where
  root : NameIn charset rendering.style.rootName.toList
  line : NameIn charset rendering.style.lineName.toList
  column : NameIn charset rendering.style.columnName.toList
  columns : ∀ name, some name ∈ rendering.columnNames → NameIn charset name

/-- The names that stand in a document. -/
def Rendering.names (rendering : Rendering) : List (List Char) :=
  [rendering.style.rootName.toList, rendering.style.lineName.toList,
    rendering.style.columnName.toList] ++ rendering.columnNames.filterMap id

theorem Rendering.spelled_of_names {rendering : Rendering} {charset : Charset}
    (accepts : Assembly.Accepts rendering.style rendering.layout) (proper : rendering.ProperNames)
    (known : ∀ name ∈ rendering.names, ∀ c ∈ name, charset.keeps c = true) :
    rendering.Spelled charset := by
  obtain ⟨root, known⟩ := List.forall_mem_cons.mp known
  obtain ⟨line, known⟩ := List.forall_mem_cons.mp known
  obtain ⟨column, known⟩ := List.forall_mem_cons.mp known
  constructor
  · exact ⟨accepts.root, root⟩
  · exact ⟨accepts.line, line⟩
  · exact ⟨accepts.column, column⟩
  · intro name inside
    exact ⟨proper name inside, known name (List.mem_filterMap.mpr ⟨some name, inside, rfl⟩)⟩

namespace DocumentStyle

variable {style : DocumentStyle} {charset : Charset} [charset.Lawful]

theorem nameIn_numberedName (given : NameIn charset style.columnName.toList) (number : Nat) :
    NameIn charset (style.numberedName number) :=
  given.append (fun _ inside => isNameChar_of_mem_decimal inside) (Text.isAscii_decimal number)

theorem NamedAs.nameIn {taken : List (List Char)} {column : WrittenColumn} {name : List Char}
    (named : style.NamedAs taken column name) (given : NameIn charset style.columnName.toList)
    (own : NameIn charset column.name) : NameIn charset name := by
  have numbered := nameIn_numberedName given column.number
  cases named with
  | own => exact own
  | numbered => exact numbered
  | @suffixed k =>
    apply numbered.append
    · intro c inside
      rcases List.mem_cons.mp inside with rfl | inside
      · decide
      · exact isNameChar_of_mem_decimal inside
    · exact Text.isAscii_append.mpr ⟨show Text.isAscii ['_'] = true by decide,
        Text.isAscii_decimal k⟩

end DocumentStyle

namespace Rendering

variable {rendering : Rendering} {charset : Charset}

theorem Spelled.fallbackName [charset.Lawful] (spelled : rendering.Spelled charset) (index : Nat) :
    NameIn charset (rendering.fallbackName index) := by
  unfold Rendering.fallbackName
  split
  · exact DocumentStyle.nameIn_numberedName spelled.column (index + 1)
  · exact spelled.column

theorem Spelled.ownColumns [charset.Lawful] (spelled : rendering.Spelled charset)
    (line : List Char) :
    ∀ column ∈ rendering.ownColumns line, NameIn charset column.name := by
  intro column inside
  obtain ⟨index, -, name⟩ := eq_of_mem_writtenFrom inside
  rw [name]
  cases own : rendering.columnNames[index]?.join with
  | none => exact spelled.fallbackName _
  | some name =>
    rw [Option.join_eq_some_iff] at own
    exact spelled.columns name (List.mem_of_getElem? own)

omit [MultibyteCodecs] in
/-- A column of a line is one of its own columns, perhaps under another name. -/
theorem exists_ownColumn {line : List Char} {column : WrittenColumn}
    (inside : column ∈ rendering.columnsOf line) :
    ∃ own ∈ rendering.ownColumns line, column.value = own.value ∧ (column.name = own.name
      ∨ ∃ taken, rendering.style.NamedAs taken own column.name) := by
  by_cases attributes : rendering.style.attributes = true
  · obtain ⟨own, member, before, named, same⟩ :=
      (renames_columnsOf attributes line).exists_namedAs inside
    exact ⟨own, member, by rw [same], .inr ⟨_, named⟩⟩
  · rw [columnsOf, writtenColumns, if_neg attributes] at inside
    exact ⟨column, inside, rfl, .inl rfl⟩

theorem Spelled.columnsOf [charset.Lawful] (spelled : rendering.Spelled charset)
    (line : List Char) :
    ∀ column ∈ rendering.columnsOf line, NameIn charset column.name := by
  intro column inside
  obtain ⟨own, member, -, same | ⟨taken, named⟩⟩ := exists_ownColumn inside
  · rw [same]
    exact spelled.ownColumns line own member
  · exact named.nameIn spelled.column (spelled.ownColumns line own member)

/-! ### Values -/

omit [MultibyteCodecs] in
theorem exists_value_of_mem_writtenFrom {index : Nat} {names : List (Option (List Char))}
    {columns : Columns} {column : WrittenColumn}
    (inside : column ∈ rendering.writtenFrom index names columns) :
    ∃ i, rendering.converters.toDocument (index + i) columns[i]?.join = some column.value := by
  induction columns generalizing index names with
  | nil => cases inside
  | cons first columns ih =>
    rw [writtenFrom] at inside
    rcases List.mem_append.mp inside with here | later
    · unfold writtenColumn? at here
      rw [Option.mem_toList] at here
      split at here
      · cases here
      · rename_i value given
        split at here
        · cases here
        · cases here
          exact ⟨0, given⟩
    · obtain ⟨i, given⟩ := ih later
      exact ⟨i + 1, by rwa [Nat.add_assoc, Nat.add_comm 1 i] at given⟩

/-- The values of a line are ready for the document, whatever converters they go through. -/
def Tame (rendering : Rendering) (line : List Char) : Prop :=
  rendering.converters.Tame rendering.style.attributes (rendering.extracted line)

omit [MultibyteCodecs] in
/-- **Every value that is written is ready for the document.** -/
theorem Tame.ready {line : List Char} (tame : rendering.Tame line)
    (escape : rendering.converters.escape = true) :
    ∀ column ∈ rendering.columnsOf line, Ready rendering.style.attributes column.value := by
  intro column inside
  obtain ⟨own, member, same, -⟩ := exists_ownColumn inside
  obtain ⟨index, given⟩ := exists_value_of_mem_writtenFrom member
  rw [Nat.zero_add] at given
  rw [same]
  exact ColumnConverters.Tame.ready tame escape given

/-! ### Chunks -/

section

omit [MultibyteCodecs]

theorem plain_indent : Plain indent := by decide

theorem ready_lineFeed (quoted : Bool) : Ready quoted ['\n'] := by
  have plain : Plain ['\n'] := by decide
  exact .of_plain plain

theorem content_lineFeed (text : List Char) : Content text ['\n'] (text ++ ['\n']) :=
  content_raw (ready_lineFeed false) text

theorem distinct_lineAttributes (rendering : Rendering) (number : Nat) (line : List Char) :
    ((rendering.lineAttributes number line).map Attribute.name).Nodup := by
  rw [lineAttributes_names]
  exact (reservedNames_proper rendering.style).1

end

theorem conveyed_lineFeed (charset : Charset) [charset.Lawful] :
    charset.conveyed ['\n'] = ['\n'] :=
  charset.conveyed_of_direct (by decide)

theorem conveyed_indent (charset : Charset) [charset.Lawful] :
    charset.conveyed indent = indent :=
  charset.conveyed_of_direct (by decide)

/-- A part on a line of its own, between line feeds. -/
theorem content_framed [charset.Lawful] {before chars : List Char}
    (blanks : charset.conveyed before = before) (plain : Plain before)
    (part : Content (['\n'] ++ before) (charset.conveyed chars) []) :
    Content ['\n'] (charset.conveyed (before ++ chars ++ ['\n'])) ['\n'] := by
  rw [charset.conveyed_append, charset.conveyed_append, blanks, conveyed_lineFeed]
  exact ((content_raw (.of_plain plain) ['\n']).append part).append (content_lineFeed [])

theorem content_headerComment (charset : Charset) [charset.Lawful] (line : List Char) :
    Content ['\n'] (charset.conveyed (headerComment line)) ['\n'] := by
  apply content_framed (conveyed_indent charset) plain_indent
  rw [conveyed_comment]
  exact content_comment _ _

/-- The element of a column is content if its value is ready. -/
theorem content_columnElement [charset.Lawful] {column : WrittenColumn}
    (given : NameIn charset column.name) (ready : Ready false column.value) :
    Content ['\n'] (charset.conveyed (rendering.columnElement column)) ['\n'] := by
  have blanks : charset.conveyed (indent ++ indent) = indent ++ indent := by
    rw [charset.conveyed_append, conveyed_indent]
  have plain : Plain (indent ++ indent) := List.forall_mem_append.mpr ⟨plain_indent, plain_indent⟩
  have number : (numberAttribute column.number).SoundIn charset := by
    have key : NameIn charset "number".toList := nameIn_of_ascii charset (by decide) (by decide)
    exact ⟨key, ready_escape true _⟩
  have sound : ∀ written ∈ if rendering.style.columnNumbers then [numberAttribute column.number]
      else [], written.SoundIn charset := by
    split
    · exact List.forall_mem_singleton.mpr number
    · exact List.forall_mem_nil _
  have distinct : ((if rendering.style.columnNumbers then [numberAttribute column.number]
      else []).map Attribute.name).Nodup := by
    split
    · simp
    · simp
  apply content_framed blanks plain
  split
  · exact content_conveyed_emptyTag _ given sound distinct
  · exact content_conveyed_element _ given sound distinct
      (content_raw (ready.conveyed charset) [])

theorem content_columnElements [charset.Lawful] {columns : List WrittenColumn}
    (given : ∀ column ∈ columns, NameIn charset column.name)
    (ready : ∀ column ∈ columns, Ready false column.value) :
    Content ['\n'] (charset.conveyed (columns.flatMap rendering.columnElement)) ['\n'] := by
  induction columns with
  | nil => exact content_nil _
  | cons column columns ih =>
    rcases List.forall_mem_cons.mp given with ⟨name, names⟩
    rcases List.forall_mem_cons.mp ready with ⟨here, others⟩
    rw [List.flatMap_cons, charset.conveyed_append]
    exact (content_columnElement name here).append (ih names others)

theorem soundIn_lineAttributes (rendering : Rendering) (charset : Charset) [charset.Lawful]
    (number : Nat) (line : List Char) :
    ∀ written ∈ rendering.lineAttributes number line, written.SoundIn charset := by
  rw [written_lineFacts]
  exact soundIn_written charset (lineFacts_proper rendering number line).2
    (Recovery.ascii_lineFacts rendering number line)

/-- The element of a line that is its text. -/
theorem content_verbatimElement [charset.Lawful] (spelled : rendering.Spelled charset)
    (number : Nat) (line text : List Char) :
    Content text (charset.conveyed
      (rendering.verbatimElement (rendering.lineAttributes number line) line)) [] := by
  have sound := soundIn_lineAttributes rendering charset number line
  have distinct := distinct_lineAttributes rendering number line
  unfold verbatimElement
  dsimp only
  split
  · exact content_conveyed_emptyTag _ spelled.line sound distinct
  · exact content_conveyed_element _ spelled.line sound distinct
      (content_raw ((ready_escape false line).conveyed charset) [])

/-- The element of a line with its columns. -/
theorem content_columnsElement [charset.Lawful] (spelled : rendering.Spelled charset)
    (number : Nat) {line : List Char} (ready : ∀ column ∈ rendering.columnsOf line,
      Ready rendering.style.attributes column.value) (text : List Char) :
    Content text (charset.conveyed (rendering.columnsElement (rendering.lineAttributes number line)
      (rendering.columnsOf line))) [] := by
  have sound := soundIn_lineAttributes rendering charset number line
  have distinct := distinct_lineAttributes rendering number line
  have names := spelled.columnsOf line
  unfold columnsElement
  dsimp only
  by_cases attributes : rendering.style.attributes = true
  · rw [if_pos attributes]
    rw [attributes] at ready
    apply content_conveyed_emptyTag text spelled.line
    · refine List.forall_mem_append.mpr ⟨sound, ?_⟩
      intro written inside
      rcases List.mem_map.mp inside with ⟨column, member, rfl⟩
      exact ⟨names column member, ready column member⟩
    · exact distinct_elementAttributes attributes number line
  · rw [if_neg attributes]
    have ready' : ∀ column ∈ rendering.columnsOf line, Ready false column.value := by
      rwa [Bool.eq_false_iff.mpr attributes] at ready
    split
    · exact content_conveyed_emptyTag _ spelled.line sound distinct
    · have inside : Content [] (charset.conveyed ('\n' ::
          (rendering.columnsOf line).flatMap rendering.columnElement ++ indent))
            (['\n'] ++ indent) := by
        rw [← List.singleton_append, charset.conveyed_append, charset.conveyed_append,
          conveyed_indent, conveyed_lineFeed]
        exact ((content_lineFeed []).append (content_columnElements names ready')).append
          (content_raw (.of_plain plain_indent) ['\n'])
      have whole := content_conveyed_element text spelled.line sound distinct inside
      rwa [← List.append_assoc] at whole

/-- **The element of a line is content**, if the values of the line are ready. -/
theorem content_line [charset.Lawful] (spelled : rendering.Spelled charset)
    (escape : rendering.converters.escape = true) {number : Nat} {line text : List Char}
    (tame : rendering.Tame line) (written : rendering.line number line = .ok text) :
    Content ['\n'] (charset.conveyed text) ['\n'] := by
  have blanks := conveyed_indent charset
  obtain ⟨_, rfl, ⟨-, rfl⟩ | ⟨chosen, columns, layout, divided, rfl⟩⟩ := element_of_line written
  · exact content_framed blanks plain_indent (content_verbatimElement spelled number line _)
  · rw [← extracted_eq layout divided]
    exact content_framed blanks plain_indent
      (content_columnsElement spelled number (tame.ready escape) _)

theorem content_elements [charset.Lawful] (spelled : rendering.Spelled charset)
    (escape : rendering.converters.escape = true) {before : Nat} {lines elements : List (List Char)}
    (tame : ∀ line ∈ lines, rendering.Tame line)
    (written : rendering.elements before lines = .ok elements) :
    Content ['\n'] (charset.conveyed elements.flatten) ['\n'] := by
  induction lines generalizing before elements with
  | nil =>
    cases written
    exact content_nil _
  | cons line lines ih =>
    rcases List.forall_mem_cons.mp tame with ⟨here, others⟩
    obtain ⟨element, first, written⟩ := Assembly.bind_eq_ok written
    obtain ⟨more, rest, written⟩ := Assembly.bind_eq_ok written
    cases written
    rw [List.flatten_cons, charset.conveyed_append]
    exact (content_line spelled escape here first).append (ih others rest)

theorem content_headerComments (charset : Charset) [charset.Lawful] (header : List (List Char)) :
    Content ['\n'] (charset.conveyed (header.map headerComment).flatten) ['\n'] := by
  induction header with
  | nil => exact content_nil _
  | cons line header ih =>
    rw [List.map_cons, List.flatten_cons, charset.conveyed_append]
    exact (content_headerComment charset line).append ih

/-! ### Documents -/

/-- What a document says before its root: nothing, or a line feed after the declaration. -/
def lead (rendering : Rendering) : List Node :=
  if rendering.style.declaration then [.text ['\n']] else []

omit [MultibyteCodecs] in
theorem blank_lead (rendering : Rendering) :
    ∀ node ∈ rendering.lead, ∃ text, node = .text text ∧ ∀ c ∈ text, isMarkupBlank c = true := by
  unfold lead
  split
  · exact List.forall_mem_singleton.mpr ⟨_, rfl, List.forall_mem_singleton.mpr rfl⟩
  · exact List.forall_mem_nil _

theorem spans_lead (rendering : Rendering) (charset : Charset) [charset.Lawful] :
    ∃ before, Spans [] []
        (charset.conveyed (if rendering.style.declaration then declaration charset.name ++ ['\n']
          else []))
        (List.replicate rendering.declarations ⟨[], .other⟩) before []
      ∧ Ready false before ∧ textNodes? before = some rendering.lead := by
  unfold lead declarations
  split
  · have declared := spans_declaration [] [] charset.plain_name.2
    refine ⟨['\n'], ?_, ready_lineFeed false, rfl⟩
    rw [charset.conveyed_append, conveyed_lineFeed, charset.conveyed_declaration]
    exact declared.append (spans_raw (ready_lineFeed false).rawText [] [])
  · exact ⟨[], .nil _ _, .nil, rfl⟩

section

omit [MultibyteCodecs]

theorem opens_of_cons {c : Char} (ascii : c.toNat < 0x80) (plain : MultibyteSet.isShift c = false)
    (text : List Char) : MultibyteSet.Opens (c :: text) := ⟨ascii, plain⟩

theorem opens_elements {before : Nat} {lines elements : List (List Char)}
    (written : rendering.elements before lines = .ok elements) :
    ∀ element ∈ elements, MultibyteSet.Opens element := by
  induction lines generalizing before elements with
  | nil =>
    cases written
    exact List.forall_mem_nil _
  | cons line lines ih =>
    obtain ⟨element, first, written⟩ := Assembly.bind_eq_ok written
    obtain ⟨more, rest, written⟩ := Assembly.bind_eq_ok written
    cases written
    obtain ⟨own, rfl, -⟩ := element_of_line first
    exact List.forall_mem_cons.mpr ⟨opens_of_cons (by decide) (by decide) _, ih rest⟩

theorem opens_footer (rendering : Rendering) : MultibyteSet.Opens rendering.footer :=
  opens_of_cons (by decide) (by decide) _

/-- A document begins in ASCII, and so do its comments. -/
theorem opens_document (origin : Origin) (charset : Charset) (header : List (List Char))
    {rest : List (List Char)} (opens : ∀ text ∈ rest, MultibyteSet.Opens text) :
    ∀ text ∈ rendering.prologue origin charset :: (header.map headerComment ++ rest),
      MultibyteSet.Opens text := by
  obtain ⟨more, first⟩ := rendering.prologue_cons origin charset
  refine List.forall_mem_cons.mpr ⟨?_, List.forall_mem_append.mpr ⟨?_, opens⟩⟩
  · rw [first]
    exact opens_of_cons (by decide) (by decide) more
  · intro text inside
    rcases List.mem_map.mp inside with ⟨line, -, rfl⟩
    exact opens_of_cons (by decide) (by decide) _

/-- **Each chunk of a document begins in ASCII**, so that it can stand after the others. -/
theorem opens_texts (charset : Charset) (origin : Origin) (header : List (List Char))
    {lines elements : List (List Char)} (written : rendering.elements 0 lines = .ok elements) :
    ∀ text ∈ rendering.texts origin charset header elements, MultibyteSet.Opens text :=
  opens_document origin charset header (List.forall_mem_append.mpr
    ⟨opens_elements written, List.forall_mem_singleton.mpr rendering.opens_footer⟩)

end

/-- **The text of a document is an element around content.** -/
theorem exists_whole_texts [charset.Lawful] (spelled : rendering.Spelled charset)
    (escape : rendering.converters.escape = true) (origin : Origin)
    {header body elements : List (List Char)} (tame : ∀ line ∈ body, rendering.Tame line)
    (made : rendering.elements 0 body = .ok elements) :
    ∃ between, Whole between ∧ Spans [] []
      (charset.conveyed (rendering.texts origin charset header elements).flatten) between [] [] := by
  obtain ⟨before, leads, ready, read⟩ := spans_lead rendering charset
  have facts := soundIn_written charset (rootFacts_keys rendering origin).2
    (Recovery.ascii_rootFacts rendering origin)
  have content : Content [] (['\n'] ++ (charset.conveyed (header.map headerComment).flatten
      ++ charset.conveyed elements.flatten)) ['\n'] := by
    exact (content_lineFeed []).append ((content_headerComments charset header).append
      (content_elements spelled escape tame made))
  have distinct : ((written (rendering.rootFacts origin)).map (Attribute.conveyed charset)
      |>.map Attribute.name).Nodup := by
    rw [names_conveyed, written, List.map_map]
    exact (rootFacts_keys rendering origin).1
  have whole := exists_whole leads ready read rendering.blank_lead spelled.root.named
    (sound_conveyed facts) distinct content
  have lineFeed : charset.conveyedChar '\n' = ['\n'] :=
    charset.conveyedChar_of_ascii (by decide) (by decide)
  rw [← conveyed_startTag spelled.root.known facts, ← conveyed_endTag spelled.root.known] at whole
  rw [texts, prologue_eq]
  simpa [charset.conveyed_append, charset.conveyed_cons, lineFeed, footer] using whole

end Rendering

end

namespace Conversion

variable {settings : Settings} {custom : Option LineSplitter} {conversion : Conversion}
  {source : Source}

theorem output_of_resolved {style : DocumentStyle} {output : Charset}
    (resolved : style.outputCharset? = .ok output) : output.output = output := by
  unfold DocumentStyle.outputCharset? at resolved
  cases chosen : Charset.resolve? style.charset with
  | error failure =>
    rw [chosen] at resolved
    cases resolved
  | ok charset =>
    rw [chosen] at resolved
    cases resolved
    exact charset.output_output

section

variable [MultibyteCodecs]

/-- **The bytes of a document of ready values decode to an element around content.** -/
theorem exists_whole_of_blocks (made : Made settings custom conversion)
    (escaping : settings.defaultEscape = true) {output : Charset} [output.Lawful]
    (resolved : settings.style.outputCharset? = .ok output)
    (known : ∀ name ∈ (conversion.rendering.named (conversion.header source)).names,
      ∀ c ∈ name, output.keeps c = true)
    (tame : ∀ line ∈ conversion.body source,
      (conversion.rendering.named (conversion.header source)).Tame line)
    {origin : Origin} {blocks : List (List UInt8)}
    (produced : (Assembly.start (.new source conversion.charset conversion.terminator) origin output
      conversion.rendering).chunks = blocks.map .ok) :
    ∃ rest between, output.decode blocks.flatten = '<' :: rest ∧ Whole between
      ∧ Spans [] [] ('<' :: rest) between [] [] := by
  obtain ⟨after, elements, taken, written, chunks⟩ := Assembly.blocks_of_start produced
  have named := Rendering.afterLines_eq_named taken
  subst named
  have accepts := made.accepts
  rw [← made.same] at accepts
  have proper : conversion.rendering.ProperNames := Rendering.properNames_initial _ _ _
  have spelled := @Rendering.spelled_of_names _
    (conversion.rendering.named (conversion.header source)) output accepts (proper.named _) known
  obtain ⟨between, whole, spans⟩ :=
    Rendering.exists_whole_texts spelled (made.escape escaping) origin tame written
  obtain ⟨rest, first⟩ := Rendering.texts_cons (conversion.rendering.named
    (conversion.header source)) origin output (conversion.header source) elements
  have opening : output.conveyed ('<' :: rest) = '<' :: output.conveyed rest :=
    output.conveyed_cons_of_ascii (by decide) (by decide) rest
  have bytes : blocks.flatten = (((conversion.rendering.named (conversion.header source)).texts
      origin output (conversion.header source) elements).map output.encode).flatten :=
    congrArg List.flatten chunks
  have opens : ∀ text ∈ (conversion.rendering.named (conversion.header source)).texts origin output
      (conversion.header source) elements, MultibyteSet.Opens text :=
    Rendering.opens_texts output origin _ written
  -- What a reader gets of the document is its text, with references for what the charset lacks.
  have decoded := output.decode_of_opens opens
  rw [output_of_resolved resolved, ← bytes, first, opening] at decoded
  rw [first, opening] at spans
  exact ⟨output.conveyed rest, between, decoded, whole, spans⟩

/-- **Ready values cannot break a document.**  Whatever the converters of the columns are: if
    values are escaped where there is none, the values that others pass through are ready, and
    the charset of the document has the names and gives them back, then every value is written
    ready for the document, the document is well-formed, and recovering its lines fails only if
    they cannot be written. -/
theorem sound_wrap (accepted : new? settings custom = .ok conversion)
    (escaping : settings.defaultEscape = true) {output : Charset} [output.Lawful]
    (resolved : settings.style.outputCharset? = .ok output)
    (known : ∀ name ∈ (conversion.rendering.named (conversion.header source)).names,
      ∀ c ∈ name, output.keeps c = true)
    (tame : ∀ line ∈ conversion.body source,
      (conversion.rendering.named (conversion.header source)).Tame line)
    {path : String} {assembly : Assembly} (wrapped : conversion.wrap source path = .ok assembly)
    {blocks : List (List UInt8)} (produced : assembly.drain.1.map Prod.fst = blocks.map .ok) :
    (∀ line ∈ conversion.body source,
        ∀ column ∈ (conversion.rendering.named (conversion.header source)).columnsOf line,
          Ready settings.columnsAsAttributes column.value)
      ∧ WellFormed (output.decode blocks.flatten)
      ∧ ∀ document : Source, document.failure? = none → document.bytes = blocks.flatten →
        ∀ sink : Sink,
          (∀ failure, (conversion.recover document sink).result = .error failure →
              ∃ refusal, failure = .io refusal)
            ∧ (sink.Open → ∃ count, (conversion.recover document sink).result = .ok count) := by
  have made := made_of_new? accepted
  have started := (made.wrap_eq resolved source path).symm.trans wrapped
  cases started
  obtain ⟨rest, between, decoded, whole, spans⟩ :=
    exists_whole_of_blocks made escaping resolved known tame produced
  refine ⟨?_, ?_, ?_⟩
  · intro line inside
    have ready := (tame line inside).ready (made.escape escaping)
    rw [← made.same]
    exact ready
  · rw [decoded]
    apply whole.wellFormed spans
    · rw [List.head?_cons]
      decide
    · exact List.cons_ne_nil _ _
  · intro document served same sink
    have output' : conversion.recovery.style.outputCharset? = .ok output := by
      rw [← resolved, ← made.same]
      rfl
    exact Recovery.run_of_sound served output' (by rw [same]; exact decoded) spans whole.sound sink

end

/-- Settings with converters that read a number and a date, and one that escapes. -/
def convertedSettings : Settings :=
  { layout := some .delimited, separator := some ",", columnsAsAttributes := true,
    converters := [some (.number {}),
      some (.date { inputPattern := "%d.%m.%Y", outputPattern := "%Y-%m-%d" }), some .escape] }

def convertedColumns : Conversion :=
  ⟨convertedSettings, .utf8, none, some (.delimited [','])⟩

def convertedSource : Source :=
  [.data (Charset.utf8.encode "+007,24.12.1999,a<b,\"&\"\nn/a,,&&,<".toList)]

theorem tame_convertedSource : ∀ line ∈ convertedColumns.body convertedSource,
    (convertedColumns.rendering.named (convertedColumns.header convertedSource)).Tame line := by
  have lines : convertedColumns.body convertedSource =
    ["+007,24.12.1999,a<b,\"&\"".toList, "n/a,,&&,<".toList] := by decide +kernel
  have first : (convertedColumns.rendering.named (convertedColumns.header convertedSource)).extracted
      "+007,24.12.1999,a<b,\"&\"".toList =
        [some "+007".toList, some "24.12.1999".toList, some "a<b".toList, some "\"&\"".toList] := by
    decide +kernel
  have second : (convertedColumns.rendering.named
      (convertedColumns.header convertedSource)).extracted "n/a,,&&,<".toList =
        [some "n/a".toList, some [], some "&&".toList, some ['<']] := by
    decide +kernel
  have date {text : List Char} (plain : Plain text) :
      DateRule.Tame { inputPattern := "%d.%m.%Y", outputPattern := "%Y-%m-%d" } true text := by
    constructor
    · intro source target moment _ reads _
      have known : Calendar.Pattern.read? "%Y-%m-%d".toList = some [.numeric .year .zeros,
        .literal '-', .numeric .month .zeros, .literal '-', .numeric .day .zeros] := by decide +kernel
      obtain rfl := Option.some.inj (known.symm.trans reads)
      have dash : isPlain '-' = true := by decide
      simp [Calendar.PatternItem.IsTame, dash]
    · intro _
      exact .of_plain plain
  have tame {text number day rest more : List Char} (plain : Plain number) (plain' : Plain day)
      (columns : (convertedColumns.rendering.named
        (convertedColumns.header convertedSource)).extracted text =
          [some number, some day, some rest, some more]) :
      (convertedColumns.rendering.named
        (convertedColumns.header convertedSource)).Tame text := by
    intro index converter value found given
    rw [columns] at given
    match index with
    | 0 =>
      cases found
      cases given
      intro _
      exact .of_plain plain
    | 1 =>
      cases found
      cases given
      exact date plain'
    | 2 =>
      cases found
      trivial
    | index + 3 => cases found
  rw [lines]
  refine List.forall_mem_cons.mpr ⟨tame ?_ ?_ first, List.forall_mem_singleton.mpr
    (tame ?_ ?_ second)⟩
  · decide
  · decide
  · decide
  · decide

/-- A number and a date among markup, then text that is no number and a date that is blank. -/
theorem sound_wrap_converted :
    ∃ assembly, wrap convertedColumns convertedSource "f.txt" = .ok assembly
      ∧ ∃ blocks : List (List UInt8), assembly.drain.1.map Prod.fst = blocks.map .ok
        ∧ WellFormed (Charset.utf8.decode blocks.flatten)
        ∧ ∃ count, (recover convertedColumns (.ofBytes blocks.flatten) {}).result = .ok count := by
  have made : wrap convertedColumns convertedSource "f.txt" = .ok _ := rfl
  obtain ⟨blocks, produced⟩ := Assembly.exists_blocks convertedSource (rendering convertedColumns)
    rfl (Rendering.total_delimited [',']) .utf8 .utf8 none (.ofPath "f.txt")
  obtain ⟨-, wellFormed, recovered⟩ := @sound_wrap convertedSettings none convertedColumns
    convertedSource _ rfl rfl .utf8 _ rfl (fun _ _ c _ => Charset.keeps_utf8 c)
    tame_convertedSource "f.txt" _ made blocks produced
  exact ⟨_, made, blocks, produced, wellFormed, (recovered (.ofBytes blocks.flatten)
    (Source.failure?_ofBytes _) (Source.bytes_ofBytes _) {}).2 ⟨nofun, rfl, rfl⟩⟩

/-- Settings with a column of numbers. -/
def numbersSettings : Settings :=
  { layout := some .delimited, separator := some ",", converters := [some (.number {})],
    emitXmlDeclaration := false }

/-- The chunks of a document whose value is taken for a tag. -/
def brokenChunks : List String :=
  ["<DocElement name=\"f.txt\" location=\"f.txt\">\n",
    "  <Line number=\"1\">\n    <Col number=\"1\">a<b</Col>\n  </Line>\n", "</DocElement>"]

/-- **Text that is no number goes into the document as it is**: what looks like a tag in it is
    taken for one, and the document cannot be read. -/
theorem markup_passed_through :
    new? numbersSettings none = .ok ⟨numbersSettings, .utf8, none, some (.delimited [','])⟩
      ∧ numbersSettings.defaultEscape = true
      ∧ ∃ assembly, wrap ⟨numbersSettings, .utf8, none, some (.delimited [','])⟩
        [.data (Charset.utf8.encode "a<b".toList)] "f.txt" = .ok assembly
      ∧ (assembly.handed 4).map (Option.map Except.toOption) =
        brokenChunks.map (fun text => some (some (Charset.utf8.encode text.toList))) ++ [none]
      ∧ ¬ WellFormed (brokenChunks.flatMap String.toList)
      ∧ (recover ⟨numbersSettings, .utf8, none, some (.delimited [','])⟩
          (.ofBytes (Charset.utf8.encode (brokenChunks.flatMap String.toList))) {}).result =
        .error (.document (.markup (.endTagMismatch "b</Col".toList "Line".toList))) := by
  have made : wrap ⟨numbersSettings, .utf8, none, some (.delimited [','])⟩
    [.data (Charset.utf8.encode "a<b".toList)] "f.txt" = .ok _ := rfl
  refine ⟨rfl, rfl, _, made, ?_, ?_, ?_⟩
  · decide +kernel
  · rintro ⟨⟨reported, read, -⟩, -⟩
    have fault : events (brokenChunks.flatMap String.toList) =
        .error (.endTagMismatch "b</Col".toList "Line".toList) := by decide +kernel
    rw [fault] at read
    cases read
  · decide +kernel

end Conversion

end FlatFile
