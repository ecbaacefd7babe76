/-
  FlatFile/Proofs/Document/Transcoded.lean
  ========================================
  **A document in another charset is the same document.**

  The charset of a document has no part in how its lines are rendered
  (`headerChunks_inCharset`): the same lines become the same texts, each encoded by itself,
  up to the same failure if there is one (`exists_headerChunks`).  So whoever decodes the
  bytes reads the same elements, attributes and texts, in every charset that has the names
  of the document (`sameDocument_wrap`).  This holds of a document that is cut short as well.

  Names and comments hold no references.  A comment shows a character that the charset
  lacks as the text of a reference, and an element whose name has one is another element
  (`name_written_as_reference`).  A multibyte set may also write a character as another
  one, wherever it stands (`yen_written_as_backslash`).
-/
import FlatFile.Charset.AsciiOnly
import FlatFile.Proofs.Charset.AsciiOnly
import FlatFile.Proofs.Document.Sound
import FlatFile.Proofs.Markup.Transcoded
import FlatFile.Proofs.Settings.Accepted

namespace FlatFile

open Markup

section

variable [MultibyteCodecs]

namespace Rendering

/-! ### The charset has no part in the rendering -/

/-- A rendering for a document in another charset. -/
def inCharset (rendering : Rendering) (label : Option String) : Rendering :=
  { rendering with style := { rendering.style with charset := label } }

section InCharset

variable (rendering : Rendering) (label : Option String)

section

omit [MultibyteCodecs]

theorem distinctNames_inCharset (taken : NameSet) (columns : List WrittenColumn) :
    (rendering.inCharset label).style.distinctNames taken columns =
      rendering.style.distinctNames taken columns := by
  induction columns generalizing taken with
  | nil => rfl
  | cons column columns ih =>
    rw [DocumentStyle.distinctNames, ih]
    rfl

theorem writtenFrom_inCharset (index : Nat) (names : List (Option (List Char))) (columns : Columns) :
    (rendering.inCharset label).writtenFrom index names columns =
      rendering.writtenFrom index names columns := by
  induction columns generalizing index names with
  | nil => rfl
  | cons column columns ih =>
    rw [writtenFrom, ih]
    rfl

theorem writtenColumns_inCharset (columns : Columns) :
    (rendering.inCharset label).writtenColumns columns = rendering.writtenColumns columns := by
  unfold writtenColumns
  rw [writtenFrom_inCharset]
  simp only [distinctNames_inCharset]
  rfl

theorem line_inCharset (number : Nat) (line : List Char) :
    (rendering.inCharset label).line number line = rendering.line number line := by
  unfold Rendering.line
  simp only [writtenColumns_inCharset]
  rfl

end

theorem bodyChunks_inCharset (charset : Charset) (before : Nat) (items : Items) :
    (rendering.inCharset label).bodyChunks charset before items =
      rendering.bodyChunks charset before items := by
  induction items generalizing before with
  | nil => rfl
  | cons item items ih =>
    cases item with
    | error failure => rfl
    | ok line => rw [bodyChunks, bodyChunks, line_inCharset, ih]

omit [MultibyteCodecs] in
theorem afterHeader_inCharset (number : Nat) (line : List Char) :
    (rendering.inCharset label).afterHeader number line =
      (rendering.afterHeader number line).map fun after => after.inCharset label := by
  have names : (rendering.inCharset label).namesFrom line = rendering.namesFrom line := rfl
  have number' : (rendering.inCharset label).style.namesLine = rendering.style.namesLine := rfl
  unfold afterHeader
  rw [names, number']
  split
  · cases rendering.namesFrom line with
    | error failure => rfl
    | ok columnNames => rfl
  · rfl

theorem headerChunks_inCharset (charset : Charset) (before : Nat) (items : Items) :
    (rendering.inCharset label).headerChunks charset before items =
      rendering.headerChunks charset before items := by
  -- A header line may give the columns their names, so the rendering changes on the way.
  induction items generalizing rendering before with
  | nil => exact bodyChunks_inCharset rendering label charset 0 []
  | cons item items ih =>
    by_cases past : rendering.style.headerLines ≤ before
    · have past' : (rendering.inCharset label).style.headerLines ≤ before := past
      rw [headerChunks_past charset past, headerChunks_past charset past', bodyChunks_inCharset]
    · have past' : ¬(rendering.inCharset label).style.headerLines ≤ before := past
      cases item with
      | error failure => rw [headerChunks, headerChunks, if_neg past, if_neg past']
      | ok line =>
        rw [headerChunks, headerChunks, if_neg past, if_neg past', afterHeader_inCharset]
        cases rendering.afterHeader (before + 1) line with
        | error failure => rfl
        | ok after => exact congrArg _ (ih after (before + 1))

end InCharset

/-! ### The chunks of a document in any charset -/

variable {rendering after : Rendering}

/-- The last chunk of a document: the end of the root, or the failure that cuts it short. -/
def lastChunk (rendering : Rendering) (charset : Charset) : Option Failure → Chunk
  | none => .ok (charset.encode rendering.footer)
  | some failure => .error failure

/-- The chunks of trees, each on a line of its own. -/
def nodeChunks (charset : Charset) (nodes : List Node) : List Chunk :=
  nodes.map fun node => .ok (charset.encode (indent ++ node.render ++ ['\n']))

/-- **The same lines are written in every charset**, up to the same failure if there is one. -/
theorem exists_bodyChunks (faithful : rendering.Faithful) (before : Nat) (items : Items) :
    ∃ lines failure?, ∀ charset, rendering.bodyChunks charset before items =
      nodeChunks charset (rendering.lineNodes before lines)
        ++ [rendering.lastChunk charset failure?] := by
  induction items generalizing before with
  | nil => exact ⟨[], none, fun charset => rfl⟩
  | cons item items ih =>
    cases item with
    | error failure => exact ⟨[], some (.io failure), fun charset => rfl⟩
    | ok line =>
      cases written : rendering.line (before + 1) line with
      | error failure =>
        refine ⟨[], some failure, ?_⟩
        intro charset
        rw [bodyChunks, written]
        rfl
      | ok element =>
        obtain ⟨lines, failure?, chunks⟩ := ih (before + 1)
        refine ⟨line :: lines, failure?, ?_⟩
        intro charset
        rw [bodyChunks, written, line_eq_render faithful written]
        exact congrArg _ (chunks charset)

omit [MultibyteCodecs] in
theorem Faithful.afterHeader (faithful : rendering.Faithful) {number : Nat} {line : List Char}
    (named : rendering.afterHeader number line = .ok after) : after.Faithful := by
  obtain ⟨columnNames, rfl⟩ := eq_of_afterHeader named
  exact ⟨faithful.unconverted, faithful.escaping⟩

theorem exists_headerChunks (faithful : rendering.Faithful) (before : Nat) (items : Items) :
    ∃ header after body failure?, rendering.afterLines before header = .ok after
      ∧ ∀ charset, rendering.headerChunks charset before items =
        nodeChunks charset (header.map fun line => .comment (commentBody line))
          ++ (nodeChunks charset (after.lineNodes 0 body) ++ [after.lastChunk charset failure?]) := by
  induction items generalizing rendering before with
  | nil =>
    obtain ⟨body, failure?, chunks⟩ := exists_bodyChunks faithful 0 []
    exact ⟨[], rendering, body, failure?, rfl, chunks⟩
  | cons item items ih =>
    by_cases past : rendering.style.headerLines ≤ before
    · obtain ⟨body, failure?, chunks⟩ := exists_bodyChunks faithful 0 (item :: items)
      refine ⟨[], rendering, body, failure?, rfl, ?_⟩
      intro charset
      rw [headerChunks_past charset past]
      exact chunks charset
    · cases item with
      | error failure =>
        refine ⟨[], rendering, [], some (.io failure), rfl, ?_⟩
        intro charset
        rw [headerChunks, if_neg past]
        rfl
      | ok line =>
        cases named : rendering.afterHeader (before + 1) line with
        | error failure =>
          refine ⟨[], rendering, [], some failure, rfl, ?_⟩
          intro charset
          rw [headerChunks, if_neg past, named]
          rfl
        | ok next =>
          obtain ⟨header, after, body, failure?, taken, chunks⟩ :=
            ih (faithful.afterHeader named) (before + 1)
          refine ⟨line :: header, after, body, failure?, ?_, ?_⟩
          · rw [afterLines, named]
            exact taken
          · intro charset
            rw [headerChunks, if_neg past, named]
            exact congrArg _ (chunks charset)

/-- The texts of the chunks of a document, up to a failure if there is one. -/
def textsTo (rendering : Rendering) (origin : Origin) (charset : Charset)
    (header body : List (List Char)) (failure? : Option Failure) : List (List Char) :=
  rendering.prologue origin charset
    :: (header.map headerComment
      ++ (((rendering.lineNodes 0 body).map fun node => indent ++ node.render ++ ['\n'])
        ++ if failure?.isSome then [] else [rendering.footer]))

/-- The text of a document, up to a failure if there is one. -/
def textTo (rendering : Rendering) (origin : Origin) (charset : Charset)
    (header body : List (List Char)) (failure? : Option Failure) : List Char :=
  (rendering.textsTo origin charset header body failure?).flatten

omit [MultibyteCodecs] in
theorem textTo_cons (rendering : Rendering) (origin : Origin) (charset : Charset)
    (header body : List (List Char)) (failure? : Option Failure) :
    ∃ rest, rendering.textTo origin charset header body failure? = '<' :: rest := by
  obtain ⟨rest, first⟩ := rendering.prologue_cons origin charset
  rw [textTo, textsTo, first]
  exact ⟨_, rfl⟩

omit [MultibyteCodecs] in
theorem opens_textsTo (rendering : Rendering) (origin : Origin) (charset : Charset)
    (header body : List (List Char)) (failure? : Option Failure) :
    ∀ text ∈ rendering.textsTo origin charset header body failure?, MultibyteSet.Opens text := by
  apply opens_document
  refine List.forall_mem_append.mpr ⟨?_, ?_⟩
  · intro text inside
    rcases List.mem_map.mp inside with ⟨node, -, rfl⟩
    exact opens_of_cons (by decide) (by decide) _
  · split
    · exact List.forall_mem_nil _
    · exact List.forall_mem_singleton.mpr rendering.opens_footer

/-! ### Reading a document in any charset -/

variable {charset : Charset}

theorem through_lead (rendering : Rendering) (charset : Charset) [charset.Lawful] :
    through charset rendering.lead = rendering.lead := by
  have feed : charset.readChar '\n' = '\n' := charset.readChar_of_ascii (by decide) (by decide)
  unfold lead
  split
  · simp [through, Node.through, feed]
  · rfl

/-- **A document reads as its trees in every charset that has their names**, whether it is whole or
    ends before its root does. -/
theorem reading?_textTo [charset.Lawful] (proper : rendering.ProperNames)
    (accepts : Assembly.Accepts rendering.style rendering.layout) {origin : Origin}
    {header body : List (List Char)}
    (known : NamesIn charset (rendering.documentNodes origin header body))
    (failure? : Option Failure) :
    reading? (charset.conveyed (rendering.textTo origin charset header body failure?)) =
      some (if failure?.isSome then 1 else 0,
        through charset (rendering.documentNodes origin header body)) := by
  have known' : NamesIn charset [rendering.rootNode origin header body] := by
    intro name inside
    apply known name
    rw [documentNodes, names_append]
    exact List.mem_append_right _ inside
  obtain ⟨distinct, keys⟩ := rootFacts_keys rendering origin
  obtain ⟨given, keys', content, -⟩ := known'.element accepts.root keys
  have inside := comesThrough_of_tidy (tidy_rootContent proper accepts header body) content []
    (.inl rfl)
  obtain ⟨before, leads, -, read⟩ := spans_lead rendering charset
  have nodes : through charset (rendering.documentNodes origin header body) =
      rendering.lead ++ [(rendering.rootNode origin header body).through charset] := by
    rw [documentNodes, through_append, ← lead, through_lead]
    rfl
  have parts : rendering.textTo origin charset header body failure? =
      (if rendering.style.declaration then declaration charset.name ++ ['\n'] else [])
        ++ (startTag rendering.style.rootName.toList (written (rendering.rootFacts origin))
          ++ render (laidOut 0 ((header.map fun line => .comment (commentBody line))
            ++ rendering.lineNodes 0 body))
          ++ if failure?.isNone then endTag rendering.style.rootName.toList else []) := by
    rw [textTo, textsTo, prologue_eq, render_rootContent]
    cases failure? with
    | none => simp [footer]
    | some failure => simp
  have whole : charset.conveyed (rendering.textTo origin charset header body failure?) = _ :=
    (congrArg charset.conveyed parts).trans (charset.conveyed_append _ _)
  obtain ⟨rest, first⟩ := rendering.textTo_cons origin charset header body failure?
  have first' : charset.conveyed (rendering.textTo origin charset header body failure?) =
      '<' :: charset.conveyed rest := by
    rw [first]
    exact charset.conveyed_cons_of_ascii (by decide) (by decide) rest
  have unmarked : (charset.conveyed
      (rendering.textTo origin charset header body failure?)).head? ≠ some '\uFEFF' := by
    rw [first', List.head?_cons]
    decide
  have nonempty : charset.conveyed (rendering.textTo origin charset header body failure?) ≠ [] := by
    rw [first']
    exact List.cons_ne_nil _ _
  have read' := reading?_root leads read given keys' distinct inside failure?.isNone whole unmarked
    nonempty
  rw [read', nodes]
  cases failure? with
  | none => rfl
  | some failure => rfl

end Rendering

/-! ### Documents -/

/-- The bytes of a document, as far as it comes. -/
def produced (chunks : List Chunk) : List UInt8 := (chunks.filterMap Except.toOption).flatten

omit [MultibyteCodecs] in
theorem produced_blocks (blocks : List (List UInt8)) :
    produced (blocks.map .ok) = blocks.flatten := by
  rw [produced, List.filterMap_map]
  exact congrArg List.flatten List.filterMap_some

theorem produced_nodeChunks (charset : Charset) (nodes : List Node) (more : List Chunk) :
    produced (Rendering.nodeChunks charset nodes ++ more) =
      ((nodes.map fun node => Rendering.indent ++ node.render ++ ['\n']).map charset.encode).flatten
        ++ produced more := by
  induction nodes with
  | nil => rfl
  | cons node nodes ih =>
    rw [List.map_cons, List.map_cons, List.flatten_cons, List.append_assoc, ← ih]
    rfl

/-- **A document is the same in every charset**, but for the name of the charset in the
    declaration: it shows the same lines, and ends with the same failure if there is one. -/
theorem Assembly.exists_chunks {rendering : Rendering} (faithful : rendering.Faithful)
    (reader : LineReader) (origin : Origin) :
    ∃ header body failure?, ∀ charset, (start reader origin charset rendering).chunks =
      .ok (charset.encode (rendering.prologue origin charset))
        :: (Rendering.nodeChunks charset (header.map fun line => .comment (commentBody line))
          ++ (Rendering.nodeChunks charset ((rendering.named header).lineNodes 0 body)
            ++ [rendering.lastChunk charset failure?])) := by
  obtain ⟨header, after, body, failure?, taken, chunks⟩ :=
    Rendering.exists_headerChunks faithful 0 reader.drain.1
  have named := Rendering.afterLines_eq_named taken
  subst named
  refine ⟨header, body, failure?, ?_⟩
  intro charset
  rw [chunks_start, chunks charset]
  rfl

theorem Assembly.chunks_inCharset (reader : LineReader) (origin : Origin) (charset : Charset)
    (rendering : Rendering) (label : Option String) :
    (start reader origin charset (rendering.inCharset label)).chunks =
      (start reader origin charset rendering).chunks := by
  rw [chunks_start, chunks_start, Rendering.headerChunks_inCharset]
  rfl

theorem produced_chunks (rendering : Rendering) (origin : Origin) (charset : Charset)
    (header body : List (List Char)) (failure? : Option Failure) :
    produced (.ok (charset.encode (rendering.prologue origin charset))
        :: (Rendering.nodeChunks charset (header.map fun line => .comment (commentBody line))
          ++ (Rendering.nodeChunks charset ((rendering.named header).lineNodes 0 body)
            ++ [rendering.lastChunk charset failure?]))) =
      (((rendering.named header).textsTo origin charset header body failure?).map
        charset.encode).flatten := by
  have comments : (header.map fun line => Node.comment (commentBody line)).map
      (fun node => Rendering.indent ++ node.render ++ ['\n']) =
        header.map Rendering.headerComment := by
    rw [List.map_map]
    rfl
  have last : produced [rendering.lastChunk charset failure?] =
      ((if failure?.isSome then [] else [rendering.footer]).map charset.encode).flatten := by
    cases failure? with
    | none => rfl
    | some failure => rfl
  have first (more : List Chunk) :
      produced (.ok (charset.encode (rendering.prologue origin charset)) :: more) =
        charset.encode (rendering.prologue origin charset) ++ produced more := rfl
  rw [first, produced_nodeChunks, produced_nodeChunks, comments, last, Rendering.textsTo,
    List.map_cons, List.flatten_cons, List.map_append, List.map_append, List.flatten_append,
    List.flatten_append]
  rfl

omit [MultibyteCodecs] in
theorem Rendering.declaration_begins {rendering : Rendering}
    (declared : rendering.style.declaration = true) (origin : Origin) (charset : Charset)
    (header body : List (List Char)) (failure? : Option Failure) :
    ∃ rest, rendering.textTo origin charset header body failure? =
      declaration charset.name ++ rest := by
  rw [textTo, textsTo, List.flatten_cons, prologue_eq, if_pos declared]
  simp only [List.append_assoc]
  exact ⟨_, rfl⟩

theorem Rendering.decode_textsTo {rendering : Rendering} {output : Charset} [output.Lawful]
    (same : output.output = output) (origin : Origin) (header body : List (List Char))
    (failure? : Option Failure) :
    output.decode ((rendering.textsTo origin output header body failure?).map
        output.encode).flatten =
      output.conveyed (rendering.textTo origin output header body failure?) := by
  have decoded :=
    output.decode_of_opens (rendering.opens_textsTo origin output header body failure?)
  rwa [same] at decoded

omit [MultibyteCodecs] in
/-- A charset is known by the name under which documents declare it. -/
theorem Charset.ofLabel?_name (charset : Charset) :
    Charset.ofLabel? charset.output.name.toList = some charset.output := by
  have all : ∀ charset ∈ Charset.all,
      Charset.ofLabel? charset.output.name.toList = some charset.output := by decide +kernel
  exact all charset charset.mem_all

/-- **Two documents that are the same but for their bytes**: one in the charset `output`, and `plain`
    in UTF-8. -/
structure SameDocument (declares : Bool) (output : Charset) (chunks plain : List Chunk) : Prop where
  declared : declares = true → declaration output.name <+: output.decode (produced chunks)
  named : Charset.ofLabel? output.name.toList = some output
  /-- They come in as many chunks, with the same failure. -/
  alike : chunks.map (Except.map fun _ => ()) = plain.map (Except.map fun _ => ())
  /-- Where the charset has the names of the one in UTF-8 and gives them back, the other one has the
      same elements and attributes, the characters of texts and values that are read in the end, and
      the comments as the charset shows them. -/
  read : ∃ opened nodes, reading? (Charset.utf8.decode (produced plain)) = some (opened, nodes)
    ∧ ((∀ failure, .error failure ∉ plain) → opened = 0)
    ∧ (NamesIn output nodes →
      reading? (output.decode (produced chunks)) = some (opened, through output nodes))
    ∧ ((∀ set, output = .multibyte set → TextsIn output nodes) → CommentsIn output nodes →
      through output nodes = nodes)

theorem Assembly.sameDocument_start {rendering : Rendering} (faithful : rendering.Faithful)
    (proper : rendering.ProperNames)
    (accepts : Assembly.Accepts rendering.style rendering.layout) (reader : LineReader)
    (origin : Origin) {output : Charset} [output.Lawful] (same : output.output = output) :
    SameDocument rendering.style.declaration output (start reader origin output rendering).chunks
      (start reader origin .utf8 rendering).chunks := by
  obtain ⟨header, body, failure?, chunks⟩ := exists_chunks faithful reader origin
  have bytes (charset : Charset) : produced (start reader origin charset rendering).chunks =
      (((rendering.named header).textsTo origin charset header body failure?).map
        charset.encode).flatten := by
    rw [chunks, produced_chunks]
  have read {charset : Charset} [charset.Lawful] (own : charset.output = charset)
      (known : NamesIn charset ((rendering.named header).documentNodes origin header body)) :
      reading? (charset.decode (produced (start reader origin charset rendering).chunks)) =
        some (if failure?.isSome then 1 else 0,
          through charset ((rendering.named header).documentNodes origin header body)) := by
    rw [bytes, Rendering.decode_textsTo own]
    exact Rendering.reading?_textTo (proper.named header) accepts known failure?
  constructor
  · intro declared
    obtain ⟨rest, begins⟩ := @Rendering.declaration_begins (rendering.named header) declared origin
      output header body failure?
    rw [bytes, Rendering.decode_textsTo same, begins, output.conveyed_append,
      output.conveyed_declaration]
    exact List.prefix_append _ _
  · have known := output.ofLabel?_name
    rwa [same] at known
  · rw [chunks, chunks]
    cases failure? with
    | none => simp [Rendering.nodeChunks, Rendering.lastChunk, Except.map, Function.comp_def]
    | some failure =>
      simp [Rendering.nodeChunks, Rendering.lastChunk, Except.map, Function.comp_def]
  · refine ⟨if failure?.isSome then 1 else 0,
      (rendering.named header).documentNodes origin header body, ?_, ?_, read same, ?_⟩
    · have plain := @read .utf8 _ rfl fun _ _ c _ => Charset.keeps_utf8 c
      rwa [through_eq_self (fun _ _ _ _ => rfl) fun _ _ c _ => Charset.keeps_utf8 c] at plain
    · intro whole
      cases failure? with
      | none => rfl
      | some failure =>
        refine absurd ?_ (whole failure)
        rw [chunks]
        simp [Rendering.lastChunk]
    · intro given kept
      refine through_eq_self ?_ kept
      by_cases multibyte : ∃ set, output = .multibyte set
      · obtain ⟨set, rfl⟩ := multibyte
        exact given set rfl
      · intro text _ c _
        exact Charset.readChar_eq_self (fun set same => multibyte ⟨set, same⟩) c

end

/-! ### Conversions -/

/-- The settings for a document in UTF-8. -/
def Settings.inUtf8 (settings : Settings) : Settings :=
  { settings with outputEncoding := some "utf-8" }

namespace Conversion

variable {settings : Settings} {custom : Option LineSplitter} {conversion : Conversion}

section

variable [MultibyteCodecs]

/-- The charset of the document has no part in whether settings are without a fault. -/
theorem new?_inUtf8 (accepted : new? settings custom = .ok conversion) :
    new? settings.inUtf8 custom = .ok { conversion with settings := settings.inUtf8 } := by
  have proper := (decides_new? settings custom).passes.mp ⟨conversion, accepted⟩
  have proper' : settings.inUtf8.Proper custom := by
    refine ⟨⟨?_, proper.rootName, proper.lineName, proper.columnName, proper.layout, proper.dates,
      proper.distinct, proper.free⟩, proper.encoding, proper.terminator, proper.namesLine⟩
    rintro label ⟨⟩
    exact ⟨.utf8, "utf-8", by decide, by decide⟩
  obtain ⟨plain, accepted'⟩ := (decides_new? settings.inUtf8 custom).passes.mpr proper'
  have made := made_of_new? accepted
  have made' := made_of_new? accepted'
  have charset := Except.ok.inj (made'.charset.symm.trans made.charset)
  have terminator := Except.ok.inj (made'.terminator.symm.trans made.terminator)
  have layout := Except.ok.inj (made'.layout.symm.trans made.layout)
  rw [accepted', ← charset, ← terminator, ← layout, ← made'.same]

/-- The bytes of a document of a source that comes to its end, under a layout that divides every
    line. -/
theorem Made.produced_eq (made : Made settings custom conversion)
    (escaping : settings.defaultEscape = true)
    (unconverted : ∀ converter ∈ settings.converters, converter = none) {output : Charset}
    (charwise : output.Charwise) (resolved : settings.style.outputCharset? = .ok output)
    {source : Source} {path : String} {assembly : Assembly} (served : source.failure? = none)
    (total : Rendering.Total conversion.layout)
    (wrapped : conversion.wrap source path = .ok assembly) :
    produced assembly.chunks = output.encode ((conversion.rendering.named
      (conversion.header source)).documentText (.ofPath path) output (conversion.header source)
        (conversion.body source)) := by
  cases (made.wrap_eq resolved source path).symm.trans wrapped
  obtain ⟨blocks, chunks⟩ := Assembly.exists_blocks source conversion.rendering served total
    conversion.charset output conversion.terminator (.ofPath path)
  rw [chunks, produced_blocks, made.blocks_eq escaping unconverted charwise chunks]

/-- **A document in another charset is the same document.** -/
theorem sameDocument_wrap (lawful : ∀ set : MultibyteSet, set.Lawful)
    (accepted : new? settings custom = .ok conversion)
    (escaping : settings.defaultEscape = true)
    (unconverted : ∀ converter ∈ settings.converters, converter = none) (source : Source)
    (path : String) :
    ∃ output plain assembly assembly', settings.style.outputCharset? = .ok output
      ∧ new? settings.inUtf8 custom = .ok plain
      ∧ conversion.wrap source path = .ok assembly ∧ plain.wrap source path = .ok assembly'
      ∧ SameDocument settings.emitXmlDeclaration output assembly.chunks assembly'.chunks := by
  have made := made_of_new? accepted
  have accepted' := new?_inUtf8 accepted
  have made' := made_of_new? accepted'
  obtain ⟨output, checks⟩ := made.checks
  have resolved := (Assembly.accepts_of_checks checks).1
  refine ⟨output, _, _, _, resolved, accepted', made.wrap_eq resolved source path,
    made'.wrap_eq rfl source path, ?_⟩
  have plain : Conversion.rendering { conversion with settings := settings.inUtf8 } =
      conversion.rendering.inCharset (some "utf-8") := by
    rw [← made.same]
    rfl
  have declares : settings.emitXmlDeclaration = conversion.rendering.style.declaration := by
    rw [← made.same]
    rfl
  have faithful : conversion.rendering.Faithful := by
    obtain ⟨unconverted', escaping'⟩ := made.faithful escaping unconverted []
    exact ⟨unconverted', escaping'⟩
  have accepts := made.accepts
  rw [← made.same] at accepts
  have : output.Lawful := ⟨fun set _ => lawful set⟩
  rw [plain, Assembly.chunks_inCharset, declares]
  exact Assembly.sameDocument_start faithful (Rendering.properNames_initial _ _ _) accepts _ _
    (output_of_resolved resolved)

end

/-- Settings for a document in a charset without Greek letters. -/
def greekSettings : Settings :=
  { headerLineCount := 1, outputEncoding := some "iso-8859-2" }

def greekSource : Source := [.data (Charset.utf8.encode "Δ\nΔ<é".toList)]

/-- What the document of this source says, given its comment. -/
def greekTrees (comment : String) : List Node :=
  [.text ['\n'],
    .element "DocElement".toList
      [("name".toList, "f.txt".toList), ("location".toList, "f.txt".toList)]
      [.text "\n  ".toList, .comment comment.toList,
        .text "\n  ".toList, .element "Line".toList [("number".toList, ['1'])] [.text "Δ<é".toList],
        .text ['\n']]]

/-- A letter that the charset lacks, in a comment and in a text: it is lost only there. -/
theorem sameDocument_wrap_greek :
    ∃ assembly assembly',
      wrap ⟨greekSettings, .utf8, none, none⟩ greekSource "f.txt" = .ok assembly
      ∧ wrap ⟨greekSettings.inUtf8, .utf8, none, none⟩ greekSource "f.txt" = .ok assembly'
      ∧ reading? (Charset.utf8.decode (produced assembly'.chunks)) = some (0, greekTrees " Δ ")
      ∧ reading? ((Charset.page .iso8859x2).decode (produced assembly.chunks)) =
        some (0, greekTrees " &#916; ") := by
  obtain ⟨output, plain, assembly, assembly', resolved, accepted, wrapped, wrapped', same⟩ :=
    @sameDocument_wrap greekSettings none ⟨greekSettings, .utf8, none, none⟩ _
      MultibyteSet.lawful rfl rfl
      (fun _ inside => absurd inside List.not_mem_nil) greekSource "f.txt"
  have output' : greekSettings.style.outputCharset? = .ok (.page .iso8859x2) := rfl
  obtain rfl := Except.ok.inj (resolved.symm.trans output')
  have accepted' : new? greekSettings.inUtf8 none =
    .ok ⟨greekSettings.inUtf8, .utf8, none, none⟩ := rfl
  obtain rfl := Except.ok.inj (accepted.symm.trans accepted')
  obtain ⟨opened, nodes, read, -, shown, -⟩ := same.read
  have plainRead : reading? (Charset.utf8.decode (produced assembly'.chunks)) =
      some (0, greekTrees " Δ ") := by
    have made := made_of_new? accepted'
    have plain : '>' ∉ Charset.utf8.name.toList := by decide
    have whole := Rendering.forest?_documentText plain (made.tidy greekSource "f.txt")
    have utf8 : greekSettings.inUtf8.style.outputCharset? = .ok .utf8 := rfl
    rw [made.produced_eq rfl nofun .utf8 utf8 rfl nofun wrapped', Rendering.decode_documentText]
    have lines : Conversion.lines ⟨greekSettings.inUtf8, .utf8, none, none⟩ greekSource =
        ["Δ".toList, "Δ<é".toList] := by decide +kernel
    have trees : documentTrees ⟨greekSettings.inUtf8, .utf8, none, none⟩ greekSource "f.txt" =
        greekTrees " Δ " := by
      unfold documentTrees header body
      rw [lines]
      rfl
    rw [← trees]
    exact reading?_of_forest? whole
  rw [plainRead] at read
  cases read
  have represented : (names (greekTrees " Δ ")).all
      (fun name => name.all (Charset.page .iso8859x2).keeps) = true := by decide +kernel
  have names : NamesIn (.page .iso8859x2) (greekTrees " Δ ") := by
    intro name inside c here
    exact List.all_eq_true.mp (List.all_eq_true.mp represented name inside) c here
  refine ⟨assembly, assembly', wrapped, wrapped', plainRead, (shown names).trans ?_⟩
  rfl

/-- Settings that give line elements a name in Greek, in a charset without Greek letters. -/
def greekNameSettings : Settings :=
  { lineElementName := "Δ", outputEncoding := some "iso-8859-2", emitXmlDeclaration := false }

def latinSource : Source := [.data [0x78]]

/-- **A name that the charset lacks is written as a reference**, which is none in a tag: the element
    has another name then, and no line is found in the document. -/
theorem name_written_as_reference :
    new? greekNameSettings none = .ok ⟨greekNameSettings, .utf8, none, none⟩
      ∧ greekNameSettings.defaultEscape = true ∧ greekNameSettings.converters = []
      ∧ ∃ assembly assembly',
        wrap ⟨greekNameSettings, .utf8, none, none⟩ latinSource "f.txt" = .ok assembly
        ∧ wrap ⟨greekNameSettings.inUtf8, .utf8, none, none⟩ latinSource "f.txt" = .ok assembly'
        ∧ (reading? (Charset.utf8.decode (produced assembly'.chunks))).map
            (fun read => (names read.2).map String.ofList) =
          some ["DocElement", "name", "location", "Δ", "number"]
        ∧ (reading? ((Charset.page .iso8859x2).decode (produced assembly.chunks))).map
            (fun read => (names read.2).map String.ofList) =
          some ["DocElement", "name", "location", "&#916;", "number"]
        ∧ (recover ⟨greekNameSettings, .utf8, none, none⟩
            (.ofBytes (produced assembly.chunks)) {}).result = .ok 0 := by
  have accepted : new? greekNameSettings none = .ok ⟨greekNameSettings, .utf8, none, none⟩ := rfl
  have accepted' : new? greekNameSettings.inUtf8 none =
    .ok ⟨greekNameSettings.inUtf8, .utf8, none, none⟩ := rfl
  have made := made_of_new? accepted
  have made' := made_of_new? accepted'
  have wrapped := made.wrap_eq rfl latinSource "f.txt"
  have wrapped' := made'.wrap_eq rfl latinSource "f.txt"
  have unconverted : ∀ converter ∈ greekNameSettings.converters, converter = none := nofun
  refine ⟨accepted, rfl, rfl, _, _, wrapped, wrapped', ?_, ?_, ?_⟩
  · rw [made'.produced_eq rfl unconverted .utf8 rfl rfl nofun wrapped']
    decide +kernel
  · rw [made.produced_eq rfl unconverted (fun _ => rfl) rfl rfl nofun wrapped]
    decide +kernel
  · rw [made.produced_eq rfl unconverted (fun _ => rfl) rfl rfl nofun wrapped]
    decide +kernel

/-- Settings for a document in a charset that has the yen sign in the place of the backslash. -/
def yenSettings : Settings := { outputEncoding := some "shift_jis", emitXmlDeclaration := false }

def yenSource : Source := [.data (Charset.utf8.encode ['\u00A5'])]

/-- **The yen sign is written as a backslash**, and is read as one: here not even a text is the
    same, and the line comes back as another one. -/
theorem yen_written_as_backslash :
    new? yenSettings none = .ok ⟨yenSettings, .utf8, none, none⟩
      ∧ yenSettings.defaultEscape = true ∧ yenSettings.converters = []
      ∧ ∃ assembly assembly',
        wrap ⟨yenSettings, .utf8, none, none⟩ yenSource "f.txt" = .ok assembly
        ∧ wrap ⟨yenSettings.inUtf8, .utf8, none, none⟩ yenSource "f.txt" = .ok assembly'
        ∧ (reading? (Charset.utf8.decode (produced assembly'.chunks))).map
            (fun read => (texts read.2).map String.ofList) =
          some ["f.txt", "f.txt", "\n  ", "1", "\u00A5", "\n"]
        ∧ (reading? ((Charset.multibyte .shiftJis).decode (produced assembly.chunks))).map
            (fun read => (texts read.2).map String.ofList) =
          some ["f.txt", "f.txt", "\n  ", "1", "\\", "\n"]
        ∧ (recover ⟨yenSettings, .utf8, none, none⟩
            (.ofBytes (produced assembly.chunks)) {}).sink.accepted = [0x5C, 0x0A] := by
  have accepted : new? yenSettings none = .ok ⟨yenSettings, .utf8, none, none⟩ := rfl
  have accepted' : new? yenSettings.inUtf8 none =
    .ok ⟨yenSettings.inUtf8, .utf8, none, none⟩ := rfl
  have made := made_of_new? accepted
  have made' := made_of_new? accepted'
  have resolved : yenSettings.style.outputCharset? = .ok (.multibyte .shiftJis) := rfl
  have wrapped := made.wrap_eq resolved yenSource "f.txt"
  have wrapped' := made'.wrap_eq rfl yenSource "f.txt"
  have unconverted : ∀ converter ∈ yenSettings.converters, converter = none := nofun
  have charwise : (Charset.multibyte .shiftJis).Charwise := MultibyteSet.charwise (by decide)
  have bytes := made.produced_eq rfl unconverted charwise resolved rfl nofun wrapped
  have bytes' := made'.produced_eq rfl unconverted .utf8 rfl rfl nofun wrapped'
  refine ⟨accepted, rfl, rfl, _, _, wrapped, wrapped', ?_, ?_, ?_⟩
  · rw [bytes']
    decide +kernel
  · rw [bytes]
    decide +kernel
  · rw [bytes]
    decide +kernel

end Conversion

end FlatFile
