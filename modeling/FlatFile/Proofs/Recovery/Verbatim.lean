/-
  FlatFile/Proofs/Recovery/Verbatim.lean
  ======================================
  **Lines without a layout come back as they were, whatever charset their document is in.**

  A line that is not divided is the text of its element.  So nothing is asked of the
  settings that concern columns, and a character that the charset of the document lacks
  does no harm: it is written as a reference, and resolved with the others.  Only what
  must stand for itself has to be in the charset, the names and the comments.

  The document is taken chunk by chunk: between two parts of the root nothing but a line
  feed is at hand, and from there each chunk gives back its own line
  (`Copies.regains_element`).
-/
import FlatFile.Charset.AsciiOnly
import FlatFile.Proofs.Markup.Spelling
import FlatFile.Proofs.Recovery.RoundTrip

namespace FlatFile

open Markup

theorem Charset.plain_name (charset : Charset) :
    Text.isAscii charset.name.toList = true ∧ '>' ∉ charset.name.toList := by
  cases charset with
  | page codePage =>
    cases codePage with
    | _ => decide
  | multibyte set =>
    cases set with
    | _ => decide
  | _ => decide

theorem Rendering.texts_cons (rendering : Rendering) (origin : Origin) (charset : Charset)
    (header elements : List (List Char)) :
    ∃ rest, (rendering.texts origin charset header elements).flatten = '<' :: rest := by
  obtain ⟨rest, first⟩ := rendering.prologue_cons origin charset
  rw [texts, List.flatten_cons, first]
  exact ⟨_, rfl⟩

namespace Recovery

variable {recovery : Recovery} {text text' text'' chars more : List Char}
  {elements elements' elements'' lines others : List (List Char)}

/-! ### Stretches that give lines back -/

variable [MultibyteCodecs]

/-- **A stretch of a document gives some lines back**: it spans passages that write them. -/
def Regains (recovery : Recovery) (text : List Char) (elements : List (List Char))
    (chars : List Char) (lines : List (List Char)) (text' : List Char)
    (elements' : List (List Char)) : Prop :=
  ∃ between, Spans text elements chars between text' elements' ∧ recovery.Writes between lines

theorem Regains.nil (recovery : Recovery) (text : List Char) (elements : List (List Char)) :
    recovery.Regains text elements [] [] text elements :=
  ⟨[], .nil text elements, .nil recovery⟩

theorem Regains.append (first : recovery.Regains text elements chars lines text' elements')
    (second : recovery.Regains text' elements' more others text'' elements'') :
    recovery.Regains text elements (chars ++ more) (lines ++ others) text'' elements'' := by
  obtain ⟨between, spans, writes⟩ := first
  obtain ⟨between', spans', writes'⟩ := second
  exact ⟨between ++ between', spans.append spans', writes.append writes'⟩

theorem regains_raw (recovery : Recovery) {raw : List Char} (h : RawText raw) (text : List Char)
    (elements : List (List Char)) :
    recovery.Regains text elements raw [] (text ++ raw) elements :=
  ⟨[], spans_raw h text elements, .nil recovery⟩

/-- A part of the root on a line of its own. -/
theorem Regains.framed
    (part : recovery.Regains (lineBreak 1) elements chars lines [] elements) :
    recovery.Regains ['\n'] elements (Rendering.indent ++ chars ++ ['\n']) lines ['\n'] elements := by
  have blanks : RawText Rendering.indent := .char (by decide) (.char (by decide) .nil)
  have feed : RawText ['\n'] := .char (by decide) .nil
  have whole := ((recovery.regains_raw blanks ['\n'] elements).append part).append
    (recovery.regains_raw feed [] elements)
  rwa [List.nil_append, List.append_nil] at whole

/-- The element of a line that is its text. -/
theorem writes_textLine {tag : Tag} {raw line : List Char}
    (named : recovery.isLineName tag.name = true) (columnless : recovery.opened tag = {})
    (resolved : unescape raw = .ok line) (before : List Char) :
    recovery.Writes [⟨before, .start tag⟩, ⟨raw, .finish tag.name⟩] [line] := by
  intro state idle
  obtain ⟨after, written, wrote⟩ := write_of_idle idle line
  refine ⟨after, ?_, wrote⟩
  have begun : recovery.handle (state.addText before) (.start tag) =
      (none, { state with record := some {} }) := by
    rw [idle.addText, handle]
    simp only [idle.record, named, if_true, columnless]
  have filled : ({ state with record := some {} } : RecoveryState).addText raw =
      { state with record := some (Record.addText {} raw) } := by
    simp only [RecoveryState.addText, idle.column, Option.map_some]
  have composed : recovery.line (Record.addText {} raw) = .ok line := by
    have content : Growing.toList (Growing.empty.add raw) = raw := Growing.toList_add Growing.empty _
    exact (congrArg unescape content).trans resolved
  have same : ({ state with record := none } : RecoveryState) = state := by
    rw [← idle.record]
  rw [handlePassages_cons begun]
  apply handlePassages_cons
  rw [filled, @handle_finish _ recovery { state with record := some (Record.addText {} raw) } _ _ rfl
    idle.column named, writeRecord, composed]
  exact (congrArg (recovery.write · _) same).trans written

/-! ### Documents without a layout -/

/-- **A recovery copies a rendering** that has no layout, from documents in a charset. -/
structure Copies (recovery : Recovery) (rendering : Rendering) (charset : Charset) : Prop where
  style : recovery.style = rendering.style
  undivided : rendering.layout = none
  readsBack : charset.ReadsBack
  root : isName rendering.style.rootName.toList = true
  line : isName rendering.style.lineName.toList = true
  apart : rendering.style.rootName ≠ rendering.style.lineName
  rootKnown : ∀ c ∈ rendering.style.rootName.toList, charset.represents c = true
  lineKnown : ∀ c ∈ rendering.style.lineName.toList, charset.represents c = true

variable {rendering : Rendering} {charset : Charset}

omit [MultibyteCodecs] in
theorem ascii_rootFacts (rendering : Rendering) (origin : Origin) :
    ∀ key ∈ (rendering.rootFacts origin).map Prod.fst, Text.isAscii key = true := by
  rw [Rendering.rootFacts_names]
  split
  · decide
  · decide

omit [MultibyteCodecs] in
theorem ascii_lineFacts (rendering : Rendering) (number : Nat) (line : List Char) :
    ∀ key ∈ (rendering.lineFacts number line).map Prod.fst, Text.isAscii key = true := by
  rw [Rendering.lineFacts_keys]
  intro key inside
  rcases DocumentStyle.eq_of_mem_reservedNames inside with rfl | rfl
  · decide
  · decide

theorem Copies.regains_prologue (copies : recovery.Copies rendering charset) (origin : Origin) :
    recovery.Regains [] [] (charset.spelled (rendering.prologue origin charset)) []
      ['\n'] [rendering.style.rootName.toList] := by
  obtain ⟨-, keys⟩ := Rendering.rootFacts_keys rendering origin
  have wellFormed := wellFormed_spelledAttributes copies.readsBack keys
  have begun (text : List Char) : recovery.Regains text [] (charset.spelled (startTag
      rendering.style.rootName.toList (written (rendering.rootFacts origin)))) [] []
        [rendering.style.rootName.toList] := by
    rw [spelled_startTag copies.readsBack copies.rootKnown (ascii_rootFacts rendering origin)]
    exact ⟨_, spans_startTag text [] copies.root wellFormed,
      writes_otherStart (not_isLineName_rootName copies.style copies.root copies.apart) text⟩
  have feed : charset.spelled ['\n'] = ['\n'] := copies.readsBack.spelled_of_ascii (by decide)
  have ending : RawText ['\n'] := .char (by decide) .nil
  rw [Rendering.prologue_eq, charset.spelled_append, charset.spelled_append, feed]
  split
  · obtain ⟨ascii, plain⟩ := charset.plain_name
    have declared : recovery.Regains [] [] (charset.spelled (declaration charset.name)) [] [] [] := by
      rw [spelled_declaration copies.readsBack ascii]
      exact ⟨_, spans_declaration [] [] plain, writes_nothing [] fun _ _ => rfl⟩
    rw [charset.spelled_append, feed]
    exact ((declared.append (recovery.regains_raw ending [] [])).append (begun ['\n'])).append
      (recovery.regains_raw ending [] _)
  · exact (begun []).append (recovery.regains_raw ending [] _)

theorem spelled_framed (readsBack : charset.ReadsBack) (chars : List Char) :
    charset.spelled (Rendering.indent ++ chars ++ ['\n']) =
      Rendering.indent ++ charset.spelled chars ++ ['\n'] := by
  have feed : charset.spelled ['\n'] = ['\n'] := readsBack.spelled_of_ascii (by decide)
  have blanks : charset.spelled Rendering.indent = Rendering.indent :=
    readsBack.spelled_of_ascii (by decide)
  rw [charset.spelled_append, charset.spelled_append, feed, blanks]

theorem regains_headerComment (recovery : Recovery) (readsBack : charset.ReadsBack)
    {line : List Char} (known : ∀ c ∈ line, charset.represents c = true)
    (elements : List (List Char)) :
    recovery.Regains ['\n'] elements (charset.spelled (Rendering.headerComment line))
      [hyphensApart line] ['\n'] elements := by
  rw [Rendering.headerComment, spelled_framed readsBack, spelled_comment readsBack known]
  exact Regains.framed ⟨_, spans_comment (lineBreak 1) elements line, writes_comment _ line⟩

/-- **The chunk of a line gives the line back.** -/
theorem Copies.regains_element (copies : recovery.Copies rendering charset) {number : Nat}
    {line element : List Char} (made : rendering.line number line = .ok element)
    (elements : List (List Char)) :
    recovery.Regains ['\n'] elements (charset.spelled element) [line] ['\n'] elements := by
  obtain ⟨distinct, keys⟩ := Rendering.lineFacts_proper rendering number line
  have wellFormed := wellFormed_spelledAttributes copies.readsBack keys
  have ascii := ascii_lineFacts rendering number line
  -- All attributes of the tag are reserved, so the record of the line starts without columns.
  have columnless : recovery.opened ⟨rendering.style.lineName.toList,
      (spelledAttributes charset (rendering.lineFacts number line)).flatMap Attribute.render⟩ =
        {} := by
    rw [← spelledAttributes_names charset] at distinct
    refine recovery.opened_of_reserved wellFormed distinct (fun one inside => ?_) _
    apply DocumentStyle.isReserved_of_mem
    rw [← Rendering.lineFacts_keys rendering number line, ← spelledAttributes_names charset]
    exact List.mem_map_of_mem inside
  unfold Rendering.line at made
  rw [copies.undivided] at made
  cases made
  rw [spelled_framed copies.readsBack]
  apply Regains.framed
  unfold Rendering.verbatimElement
  dsimp only
  rw [Rendering.written_lineFacts]
  split
  · rename_i empty
    obtain rfl := List.isEmpty_iff.mp empty
    rw [spelled_emptyTag copies.readsBack copies.lineKnown ascii]
    refine ⟨_, spans_emptyTag _ elements copies.line wellFormed,
      writes_emptyLine (isLineName_lineName copies.style copies.line) ?_ _⟩
    rw [columnless]
    rfl
  · rw [charset.spelled_append, charset.spelled_append,
      spelled_startTag copies.readsBack copies.lineKnown ascii,
      spelled_endTag copies.readsBack copies.lineKnown]
    have spans := ((spans_startTag (lineBreak 1) elements copies.line wellFormed).append
      (spans_raw (rawText_spelled copies.readsBack line) [] _)).append
        (spans_endTag _ elements copies.line)
    exact ⟨_, spans, writes_textLine (isLineName_lineName copies.style copies.line) columnless
      (unescape_spelled copies.readsBack line) _⟩

theorem Copies.regains_elements (copies : recovery.Copies rendering charset) {before : Nat}
    {lines texts : List (List Char)} (made : rendering.elements before lines = .ok texts)
    (elements : List (List Char)) :
    recovery.Regains ['\n'] elements (charset.spelled texts.flatten) lines ['\n'] elements := by
  induction lines generalizing before texts with
  | nil =>
    cases made
    exact .nil recovery _ _
  | cons line lines ih =>
    obtain ⟨element, first, made⟩ := Assembly.bind_eq_ok made
    obtain ⟨others, rest, made⟩ := Assembly.bind_eq_ok made
    cases made
    rw [List.flatten_cons, charset.spelled_append]
    exact (copies.regains_element first elements).append (ih rest)

theorem regains_headerComments (recovery : Recovery) (readsBack : charset.ReadsBack)
    {header : List (List Char)} (known : ∀ line ∈ header, ∀ c ∈ line, charset.represents c = true)
    (elements : List (List Char)) :
    recovery.Regains ['\n'] elements
      (charset.spelled (header.map Rendering.headerComment).flatten) (header.map hyphensApart)
        ['\n'] elements := by
  induction header with
  | nil => exact .nil recovery _ _
  | cons line header ih =>
    rcases List.forall_mem_cons.mp known with ⟨here, others⟩
    rw [List.map_cons, List.flatten_cons, charset.spelled_append]
    exact (recovery.regains_headerComment readsBack here elements).append (ih others)

theorem Copies.regains_footer (copies : recovery.Copies rendering charset) :
    recovery.Regains ['\n'] [rendering.style.rootName.toList] (charset.spelled rendering.footer) []
      [] [] := by
  rw [Rendering.footer, spelled_endTag copies.readsBack copies.rootKnown]
  exact ⟨_, spans_endTag _ [] copies.root, recovery.writes_otherFinish _ _⟩

/-- **The chunks of a document give all lines back.** -/
theorem Copies.regains_texts (copies : recovery.Copies rendering charset) (origin : Origin)
    {header body elements : List (List Char)}
    (known : ∀ line ∈ header, ∀ c ∈ line, charset.represents c = true)
    (made : rendering.elements 0 body = .ok elements) :
    recovery.Regains [] []
      (charset.spelled (rendering.texts origin charset header elements).flatten)
        (header.map hyphensApart ++ body) [] [] := by
  have comments := recovery.regains_headerComments copies.readsBack known
    [rendering.style.rootName.toList]
  have lines := copies.regains_elements made [rendering.style.rootName.toList]
  have whole := (copies.regains_prologue origin).append
    (comments.append (lines.append copies.regains_footer))
  simpa [Rendering.texts, charset.spelled_append] using whole

end Recovery

namespace Conversion

variable {settings : Settings} {custom : Option LineSplitter} {conversion : Conversion}
  {source : Source}

section

variable [MultibyteCodecs]

/-- **Settings that keep lines whole**: there is no layout, a line element is not taken for the
    root, and the document is in UTF-8 or else, without header lines, in a single-byte charset that
    has the characters of its names. -/
structure Verbatim (settings : Settings) (output : Charset) : Prop where
  undivided : settings.layout = none
  resolved : settings.style.outputCharset? = .ok output
  apart : settings.docElementName ≠ settings.lineElementName
  readable : output = .utf8 ∨ output.SingleByte ∧ settings.headerLineCount = 0
    ∧ (∀ c ∈ settings.docElementName.toList, output.represents c = true)
    ∧ ∀ c ∈ settings.lineElementName.toList, output.represents c = true

omit [MultibyteCodecs] in
theorem Made.undivided (made : Made settings custom conversion) (selected : settings.layout = none) :
    conversion.layout = none := by
  have layout := made.layout
  simp only [Settings.columnLayout, selected] at layout
  exact (Except.ok.inj layout).symm

theorem Verbatim.copies {output : Charset} (verbatim : Verbatim settings output)
    (made : Made settings custom conversion) (source : Source) :
    conversion.recovery.Copies (conversion.rendering.named (conversion.header source)) output
      ∧ ∀ line ∈ conversion.header source, ∀ c ∈ line, output.represents c = true := by
  rcases made.checks with ⟨output', checks⟩
  obtain ⟨-, accepts⟩ := Assembly.accepts_of_checks checks
  have undivided := made.undivided verbatim.undivided
  have apart := verbatim.apart
  rw [← made.same] at accepts apart
  rcases verbatim.readable with rfl | ⟨single, headless, root, line⟩
  · have known (text : List Char) : ∀ c ∈ text, Charset.utf8.represents c = true := fun _ _ => rfl
    exact ⟨⟨rfl, undivided, Charset.readsBack_utf8, accepts.root, accepts.line, apart, known _,
      known _⟩, fun line _ => known line⟩
  · rw [← made.same] at headless root line
    refine ⟨⟨rfl, undivided, single.readsBack, accepts.root, accepts.line, apart, root, line⟩, ?_⟩
    intro line inside
    rw [header, headless] at inside
    cases inside

/-- **Files without a layout come back through every charset**: each line is as it was, only the
    hyphens of the header lines are kept apart. -/
theorem recovers_verbatim {output : Charset} (accepted : new? settings custom = .ok conversion)
    (verbatim : Verbatim settings output) (served : source.failure? = none) (path : String) :
    ∃ assembly, conversion.wrap source path = .ok assembly
      ∧ ∃ blocks : List (List UInt8), assembly.drain.1.map Prod.fst = blocks.map .ok
        ∧ conversion.Recovers source blocks.flatten
          ((conversion.header source).map hyphensApart ++ conversion.body source) := by
  have made := made_of_new? accepted
  have total : Rendering.Total conversion.rendering.layout := by
    intro chosen same
    rw [show conversion.rendering.layout = none from made.undivided verbatim.undivided] at same
    cases same
  obtain ⟨blocks, produced⟩ := Assembly.exists_blocks source conversion.rendering served total
    conversion.charset output conversion.terminator (.ofPath path)
  refine ⟨_, made.wrap_eq verbatim.resolved source path, blocks, produced, ?_⟩
  obtain ⟨after, elements, taken, written, chunks⟩ := Assembly.blocks_of_start produced
  have named := Rendering.afterLines_eq_named taken
  subst named
  obtain ⟨copies, known⟩ := verbatim.copies made source
  obtain ⟨between, spans, writes⟩ := copies.regains_texts (.ofPath path) known written
  -- The bytes of the document are the texts of its chunks, encoded at once.
  have bytes : blocks.flatten = output.encode ((conversion.rendering.named
      (conversion.header source)).texts (.ofPath path) output (conversion.header source)
        elements).flatten := by
    rw [chunks]
    exact copies.readsBack.charwise.encode_flatten _
  obtain ⟨rest, first⟩ := Rendering.texts_cons (conversion.rendering.named
    (conversion.header source)) (.ofPath path) output (conversion.header source) elements
  rw [first] at bytes
  rw [first, copies.readsBack.spelled_markup] at spans
  have unmarked : ('<' :: rest).head? ≠ some byteOrderMark := by
    rw [List.head?_cons]
    decide
  have decoded : output.decode blocks.flatten = '<' :: output.spelled rest := by
    rw [bytes, copies.readsBack.decode_encode _ unmarked, copies.readsBack.spelled_markup]
  have count := conversion.length_header_body source id
  rw [List.map_id] at count
  exact recovers_of_spans made verbatim.resolved decoded spans writes count

end

/-- Settings for a document that has the letters of western languages. -/
def narrowDocument : Settings :=
  { outputEncoding := some "latin1", emitRawLine := true, lineTerminator := some "|" }

def narrowSource : Source := [.data (Charset.utf8.encode "éΩ|&#937;<||  \n|-->".toList)]

/-- A line with a character that the document lacks, one that looks like a reference to it, an
    empty one, one of blanks and one without an end. -/
theorem recovers_verbatim_references :
    ∃ assembly, wrap ⟨narrowDocument, .utf8, some '|', none⟩ narrowSource "Ω.txt" = .ok assembly
      ∧ ∃ blocks : List (List UInt8), assembly.drain.1.map Prod.fst = blocks.map .ok
        ∧ (recover ⟨narrowDocument, .utf8, some '|', none⟩ (.ofBytes blocks.flatten) {}).result =
          .ok 5
        ∧ (recover ⟨narrowDocument, .utf8, some '|', none⟩
          (.ofBytes blocks.flatten) {}).sink.accepted =
            Charset.utf8.encode "éΩ|&#937;<||  \n|-->|".toList := by
  obtain ⟨assembly, made, blocks, produced, recovered⟩ := @recovers_verbatim narrowDocument none
    ⟨narrowDocument, .utf8, some '|', none⟩ narrowSource _ (.page .windows1252) rfl
    ⟨rfl, rfl, by decide, .inr ⟨.page .windows1252, rfl, List.all_eq_true.mp (by decide),
      List.all_eq_true.mp (by decide)⟩⟩ rfl "Ω.txt"
  obtain ⟨result, accepted⟩ := recovered (.ofBytes blocks.flatten)
    (Source.failure?_ofBytes _) (Source.bytes_ofBytes _) {} ⟨nofun, rfl, rfl⟩
  exact ⟨assembly, made, blocks, produced, result.trans rfl, accepted.trans (by decide +kernel)⟩

end Conversion

end FlatFile
