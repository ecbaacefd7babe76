/-
  FlatFile/Proofs/Recovery/RoundTrip.lean
  =======================================
  **A file that went into a document comes back.**

  What its lines have to do with those of the file is a matter of the layout alone:
  `Transparent` settings lose nothing else on the way into the document and back than what
  the records of the lines lack (`recovers_of_gathered`), `Reversible` ones nothing that the
  layout keeps (`recovers_of_reversible`).  Delimited lines come back as they were
  (`givesBack_delimited`), lines with columns of some widths come back up to their last
  full column (`givesBack_fixed`).

  The position of a column is a word, so a line must not have more columns than there
  are words; a line or a list of widths so long fits no memory.
-/
import FlatFile.Charset.AsciiOnly
import FlatFile.Proofs.Document.Reading
import FlatFile.Proofs.Recovery.Journal
import FlatFile.Proofs.Recovery.Lines

namespace FlatFile

open Markup

/-! ### The lines that come back -/

namespace Rendering

variable {rendering : Rendering}

theorem leaves_eq_false (kept : rendering.style.skipEmpty = false)
    (kept' : rendering.style.skipEmptyUnnamed = false) : rendering.leaves = fun _ => false := by
  funext index
  rw [leaves, kept, kept']
  rfl

theorem extracted_nil (rendering : Rendering) : rendering.extracted [] = [] := by
  unfold extracted
  cases rendering.layout with
  | none => rfl
  | some layout => rfl

theorem extracted_delimited {separator : List Char}
    (layout : rendering.layout = some (.delimited separator)) {line : List Char}
    (nonempty : line ≠ []) :
    rendering.extracted line = (Text.split separator line).map some := by
  have divided : ColumnLayout.columns (.delimited separator) line =
      .ok (some ((Text.split separator line).map some)) := by
    rw [ColumnLayout.columns, if_neg (by simpa using nonempty)]
  exact extracted_eq layout divided

/-- The columns of a delimited line are all set. -/
theorem exists_extracted_delimited {separator : List Char}
    (layout : rendering.layout = some (.delimited separator)) (line : List Char) :
    ∃ tokens : List (List Char), rendering.extracted line = tokens.map some := by
  by_cases empty : line = []
  · exact ⟨[], by rw [empty, extracted_nil, List.map_nil]⟩
  · exact ⟨_, extracted_delimited layout empty⟩

theorem extracted_fixed {widths : List Nat} (layout : rendering.layout = some (.fixed widths))
    {line : List Char} (nonempty : line ≠ []) :
    rendering.extracted line = (Columns.cut (some line) (widths.map some)).1 := by
  have divided : ColumnLayout.columns (.fixed widths) line =
      .ok (some (Columns.cut (some line) (widths.map some)).1) := by
    rw [ColumnLayout.columns, if_neg (by simpa using nonempty)]
  exact extracted_eq layout divided

theorem restored_nil (rendering : Rendering) : rendering.restored [] = [] := by
  rw [restored, extracted_nil]
  exact Recovery.compose_nil _

/-- **A delimited line comes back as it was**, if no column is left out. -/
theorem restored_delimited {separator : List Char}
    (layout : rendering.layout = some (.delimited separator)) (nonempty : separator ≠ [])
    (all : rendering.leaves = fun _ => false) (line : List Char) :
    rendering.restored line = line := by
  by_cases empty : line = []
  · rw [empty, restored_nil]
  · rw [restored, all, Columns.sparing_none, layout, extracted_delimited layout empty,
      Columns.compose_split nonempty]

/-- **A line with columns of some widths comes back up to its last boundary.** -/
theorem restored_fixed {widths : List Nat} (layout : rendering.layout = some (.fixed widths))
    (line : List Char) :
    rendering.restored line = line.take (lastBoundary widths line.length) := by
  by_cases empty : line = []
  · rw [empty, restored_nil, List.take_nil]
  · rw [restored, layout, extracted_fixed layout empty, ColumnLayout.compose, Columns.compose_cut,
      reduceOption_map_some]

theorem length_extracted_delimited {separator : List Char}
    (layout : rendering.layout = some (.delimited separator)) (nonempty : separator ≠ [])
    (line : List Char) : (rendering.extracted line).length ≤ line.length + 1 := by
  by_cases empty : line = []
  · rw [empty, extracted_nil]
    exact Nat.zero_le _
  · rw [extracted_delimited layout empty, List.length_map]
    exact Text.length_split_le nonempty line

theorem length_extracted_fixed {widths : List Nat}
    (layout : rendering.layout = some (.fixed widths)) (line : List Char) :
    (rendering.extracted line).length ≤ widths.length := by
  by_cases empty : line = []
  · rw [empty, extracted_nil]
    exact Nat.zero_le _
  · rw [extracted_fixed layout empty, Columns.length_cut, List.length_map]

end Rendering

/-! ### Documents -/

section

variable [MultibyteCodecs]

/-- **The document of a file writes its lines**: the header lines with their hyphens apart, then
    what comes back of each further line. -/
theorem Recovery.Accords.writes_document {recovery : Recovery} {rendering : Rendering}
    (accords : recovery.Accords rendering) (origin : Origin) (header : List (List Char))
    {body : List (List Char)} {restored : List Char → List Char}
    (each : ∀ line ∈ body, recovery.WritesBack rendering line (restored line)) :
    recovery.Writes (List.replicate rendering.declarations ⟨[], .other⟩
        ++ (outline [] (rendering.documentNodes origin header body)).1)
      (header.map hyphensApart ++ body.map restored) := by
  have root := accords.writes_rootNode origin header each
  have declared : recovery.Writes [⟨[], .other⟩] [] := writes_nothing [] fun _ _ => rfl
  unfold Rendering.documentNodes Rendering.declarations
  split
  · have all := declared.append (root ['\n'])
    simpa [outline, Node.outline, escape, escapeChar] using all
  · simpa [outline] using root []

end

namespace Conversion

variable {settings : Settings} {custom : Option LineSplitter} {conversion : Conversion}
  {source : Source}

section

variable [MultibyteCodecs]

/-- No column of a file has a name of its own, neither by the settings nor by its header. -/
def Unnamed (conversion : Conversion) (source : Source) : Prop :=
  (∀ name ∈ conversion.rendering.columnNames, name = none)
    ∧ ∀ name ∈ (conversion.rendering.named (conversion.header source)).columnNames, name = none

/-- **Settings that lose no column of a file**: lines and document are in UTF-8, a line element is
    not taken for the root, values are escaped and otherwise unchanged, and a column can be found
    by its number, or by its name, an attribute that is a numbered one. -/
structure Reversible (settings : Settings) (conversion : Conversion) (source : Source) : Prop where
  encoding : Charset.resolve? settings.encoding = .ok .utf8
  output : settings.style.outputCharset? = .ok .utf8
  apart : settings.docElementName ≠ settings.lineElementName
  escaping : settings.defaultEscape = true
  unstripped : settings.defaultStrip = false
  unconverted : ∀ converter ∈ settings.converters, converter = none
  located : settings.columnsAsAttributes = false ∧ settings.emitColumnNumbers = true
    ∨ settings.columnsAsAttributes = true ∧ conversion.Unnamed source
      ∧ declaresNamespace settings.columnElementName.toList = false

end

/-- **Settings under which nothing but the columns of a line decides what comes back of it**: lines
    and document are in UTF-8, a line element is not taken for the root, values are escaped and
    otherwise unchanged. -/
structure Transparent (settings : Settings) : Prop where
  encoding : Charset.resolve? settings.encoding = .ok .utf8
  output : settings.style.outputCharset? = .ok .utf8
  apart : settings.docElementName ≠ settings.lineElementName
  escaping : settings.defaultEscape = true
  unstripped : settings.defaultStrip = false
  unconverted : ∀ converter ∈ settings.converters, converter = none

/-- **Settings under which a document gives back as many lines as went into it**: it is in UTF-8,
    a line element is not taken for the root, values are escaped and not converted. -/
structure Orderly (settings : Settings) : Prop where
  output : settings.style.outputCharset? = .ok .utf8
  apart : settings.docElementName ≠ settings.lineElementName
  escaping : settings.defaultEscape = true
  unconverted : ∀ converter ∈ settings.converters, converter = none

theorem Transparent.orderly (transparent : Transparent settings) : Orderly settings :=
  ⟨transparent.output, transparent.apart, transparent.escaping, transparent.unconverted⟩

theorem Made.mirrors (made : Made settings custom conversion)
    (divided : conversion.layout.isNone = false) (header : List (List Char)) :
    conversion.recovery.Mirrors (conversion.rendering.named header) := by
  rcases made.checks with ⟨output, checks⟩
  obtain ⟨-, accepts⟩ := Assembly.accepts_of_checks checks
  rw [← made.same] at accepts
  exact ⟨rfl, divided, accepts.line, accepts.column, (Rendering.properNames_initial _ _ _).named _⟩

section

variable [MultibyteCodecs]

theorem Reversible.transparent (reversible : Reversible settings conversion source) :
    Transparent settings :=
  ⟨reversible.encoding, reversible.output, reversible.apart, reversible.escaping,
    reversible.unstripped, reversible.unconverted⟩

theorem Reversible.reverses (reversible : Reversible settings conversion source)
    (made : Made settings custom conversion) (divided : conversion.layout.isNone = false) :
    conversion.recovery.Reverses (conversion.rendering.named (conversion.header source)) := by
  have faithful := made.faithful reversible.escaping reversible.unconverted
    (conversion.header source)
  have located := reversible.located
  have unstripped := reversible.unstripped
  rw [← made.same] at located unstripped
  refine ⟨made.mirrors divided _, rfl, faithful.unconverted, unstripped, ?_⟩
  rcases located with ⟨elements, numbered⟩ | ⟨attributes, ⟨configured, given⟩, plain⟩
  · exact .elements elements numbered
  · exact .attributes attributes configured given plain

/-- **A file gives back some lines**: it has a document and, however the bytes of this are served,
    recovering writes these lines, each with its terminator, as many as the file has. -/
def GivesBack (conversion : Conversion) (source : Source) (path : String)
    (lines : List (List Char)) : Prop :=
  ∃ assembly, conversion.wrap source path = .ok assembly
    ∧ ∃ blocks : List (List UInt8), assembly.drain.1.map Prod.fst = blocks.map .ok
      ∧ ∀ document : Source, document.failure? = none → document.bytes = blocks.flatten →
        ∀ sink : Sink, sink.Open →
          (conversion.recover document sink).result = .ok (conversion.lines source).length
            ∧ (conversion.recover document sink).sink.accepted = sink.accepted
              ++ Charset.utf8.encode
                (lines.flatMap fun line => line ++ [conversion.terminator.getD '\n'])

/-- **The bytes of a document give some lines back**: however they are served, recovering writes
    these lines, each with its terminator, as many as the file has. -/
def Recovers (conversion : Conversion) (source : Source) (bytes : List UInt8)
    (lines : List (List Char)) : Prop :=
  ∀ document : Source, document.failure? = none → document.bytes = bytes →
    ∀ sink : Sink, sink.Open →
      (conversion.recover document sink).result = .ok (conversion.lines source).length
        ∧ (conversion.recover document sink).sink.accepted = sink.accepted
          ++ lines.flatMap fun line =>
            conversion.charset.encode (line ++ [conversion.terminator.getD '\n'])

/-- Bytes that decode to passages give back the lines that these write. -/
theorem recovers_of_spans (made : Made settings custom conversion) {output : Charset}
    (resolved : settings.style.outputCharset? = .ok output) {bytes : List UInt8}
    {rest left : List Char} {between : List Passage} {lines : List (List Char)}
    (decoded : output.decode bytes = '<' :: rest)
    (spans : Spans [] [] ('<' :: rest) between left [])
    (writes : conversion.recovery.Writes between lines)
    (count : lines.length = (conversion.lines source).length) :
    conversion.Recovers source bytes lines := by
  intro document whole same sink free
  obtain ⟨after, handled, wrote⟩ := writes (Recovery.start output sink) ⟨rfl, rfl, free⟩
  have output' : conversion.recovery.style.outputCharset? = .ok output := by
    rw [← resolved, ← made.same]
    rfl
  obtain ⟨reads, run⟩ := Recovery.run_eq_of_spans whole output' (by rw [same]; exact decoded) spans
    sink
  have flush : Recovery.flushed (none, after) = (none, after) := by
    rw [Recovery.flushed, wrote.idle.sink.flushes, Option.map_none]
  rw [recover, run, handled, flush]
  constructor
  · rw [Recovery.outcome, wrote.written, count]
    exact congrArg Except.ok (Nat.zero_add _)
  · exact wrote.accepted

theorem length_header_body (conversion : Conversion) (source : Source)
    (restored : List Char → List Char) :
    ((conversion.header source).map hyphensApart
      ++ (conversion.body source).map restored).length = (conversion.lines source).length := by
  rw [List.length_append, List.length_map, List.length_map, ← List.length_append]
  exact congrArg List.length (List.take_append_drop _ _)

omit [MultibyteCodecs] in
theorem Made.accords (made : Made settings custom conversion)
    (apart : settings.docElementName ≠ settings.lineElementName) (header : List (List Char)) :
    conversion.recovery.Accords (conversion.rendering.named header) := by
  rcases made.checks with ⟨output, checks⟩
  have accepts := (Assembly.accepts_of_checks checks).2
  rw [← made.same] at accepts apart
  exact ⟨rfl, accepts.root, accepts.line, accepts.column,
    (Rendering.properNames_initial _ _ _).named header, apart⟩

/-- **A document gives back what its line elements write**, line by line. -/
theorem recovers_of_writesBack (orderly : Orderly settings)
    (made : Made settings custom conversion) {restored : List Char → List Char}
    (each : ∀ line ∈ conversion.body source, conversion.recovery.WritesBack
      (conversion.rendering.named (conversion.header source)) line (restored line))
    {path : String} {blocks : List (List UInt8)}
    (produced : (Assembly.start (.new source conversion.charset conversion.terminator) (.ofPath path)
      .utf8 conversion.rendering).chunks = blocks.map .ok) :
    conversion.Recovers source blocks.flatten ((conversion.header source).map hyphensApart
      ++ (conversion.body source).map restored) := by
  -- The bytes of the document are its text, encoded at once, and this spans its passages.
  obtain ⟨rest, first⟩ := Rendering.documentText_cons
    (conversion.rendering.named (conversion.header source)) (.ofPath path)
    (conversion.header source) (conversion.body source) .utf8
  have decoded : Charset.utf8.decode blocks.flatten = '<' :: rest := by
    rw [made.blocks_eq orderly.escaping orderly.unconverted .utf8 produced,
      Rendering.decode_documentText, first]
  have spans := @Rendering.spans_documentText _ _ _ (.ofPath path) .utf8 (by decide)
    (made.tidy source path)
  rw [first] at spans
  exact recovers_of_spans made orderly.output decoded spans
    ((made.accords orderly.apart _).writes_document (.ofPath path) (conversion.header source) each)
    (conversion.length_header_body source _)

/-- **What is lost on the way is lost in the columns**: the lines that come back are those of the
    records that the lines of the file make. -/
theorem recovers_of_gathered (orderly : Orderly settings)
    (made : Made settings custom conversion) (divided : conversion.layout.isNone = false)
    {restored : List Char → List Char}
    (composed : ∀ line ∈ conversion.body source, conversion.recovery.line (conversion.recovery.gathered
      (conversion.rendering.named (conversion.header source)) line) = .ok (restored line))
    {path : String} {blocks : List (List UInt8)}
    (produced : (Assembly.start (.new source conversion.charset conversion.terminator) (.ofPath path)
      .utf8 conversion.rendering).chunks = blocks.map .ok) :
    conversion.Recovers source blocks.flatten ((conversion.header source).map hyphensApart
      ++ (conversion.body source).map restored) :=
  recovers_of_writesBack orderly made
    (fun line inside => (made.mirrors divided _).writesBack (composed line inside)) produced

/-- A layout that divides every line loses no line. -/
theorem givesBack_of_gathered (transparent : Transparent settings)
    (made : Made settings custom conversion) {layout : ColumnLayout}
    (chosen : conversion.layout = some layout) (total : Rendering.Total (some layout))
    (served : source.failure? = none) {restored : List Char → List Char}
    (composed : ∀ line ∈ conversion.body source, conversion.recovery.line (conversion.recovery.gathered
      (conversion.rendering.named (conversion.header source)) line) = .ok (restored line))
    (path : String) :
    conversion.GivesBack source path ((conversion.header source).map hyphensApart
      ++ (conversion.body source).map restored) := by
  obtain ⟨blocks, produced⟩ := Assembly.exists_blocks source conversion.rendering served
    (by rw [show conversion.rendering.layout = some layout from chosen]; exact total)
    conversion.charset .utf8 conversion.terminator (.ofPath path)
  refine ⟨_, made.wrap_eq transparent.output source path, blocks, produced, ?_⟩
  have utf8 : conversion.charset = .utf8 :=
    Except.ok.inj (made.charset.symm.trans transparent.encoding)
  have recovers := recovers_of_gathered transparent.orderly made (by rw [chosen]; rfl) composed produced
  rwa [Recovers, utf8, Charset.Charwise.utf8.flatMap_encode] at recovers

/-- Where columns tell their positions, only the layout loses something. -/
theorem recovers_of_reversible (reversible : Reversible settings conversion source)
    (made : Made settings custom conversion) (divided : conversion.layout.isNone = false)
    (few : ∀ line ∈ conversion.body source,
      ((conversion.rendering.named (conversion.header source)).extracted line).length < UInt64.size)
    {path : String} {blocks : List (List UInt8)}
    (produced : (Assembly.start (.new source conversion.charset conversion.terminator) (.ofPath path)
      .utf8 conversion.rendering).chunks = blocks.map .ok) :
    conversion.Recovers source blocks.flatten ((conversion.header source).map hyphensApart
      ++ (conversion.body source).map
        (conversion.rendering.named (conversion.header source)).restored) :=
  recovers_of_gathered reversible.transparent.orderly made divided
    (fun line inside => (reversible.reverses made divided).line_gathered (few line inside)) produced

theorem givesBack_of_reversible (reversible : Reversible settings conversion source)
    (made : Made settings custom conversion) {layout : ColumnLayout}
    (chosen : conversion.layout = some layout) (total : Rendering.Total (some layout))
    (served : source.failure? = none)
    (few : ∀ line ∈ conversion.body source,
      ((conversion.rendering.named (conversion.header source)).extracted line).length < UInt64.size)
    (path : String) :
    conversion.GivesBack source path ((conversion.header source).map hyphensApart
      ++ (conversion.body source).map
        (conversion.rendering.named (conversion.header source)).restored) :=
  givesBack_of_gathered reversible.transparent made chosen total served (fun line inside =>
    (reversible.reverses made (by rw [chosen]; rfl)).line_gathered (few line inside)) path

omit [MultibyteCodecs] in
theorem Made.delimited (made : Made settings custom conversion)
    (selected : settings.layout = some .delimited) :
    ∃ separator, conversion.layout = some (.delimited separator) ∧ separator ≠ [] := by
  have layout := made.layout
  simp only [Settings.columnLayout, selected] at layout
  cases given : settings.separator with
  | none =>
    rw [given] at layout
    cases layout
  | some separator =>
    rw [given] at layout
    have chosen := (Except.ok.inj layout).symm
    rcases made.checks with ⟨output, checks⟩
    have checked := (Assembly.accepts_of_checks checks).2.layout _ chosen
    refine ⟨separator.toList, chosen, fun empty => ?_⟩
    rw [ColumnLayout.check, empty] at checked
    cases checked

omit [MultibyteCodecs] in
theorem Made.fixed (made : Made settings custom conversion)
    (selected : settings.layout = some .fixed) :
    conversion.layout = some (.fixed (settings.columnWidths.map UInt64.toNat)) := by
  have layout := made.layout
  simp only [Settings.columnLayout, selected] at layout
  split at layout
  · cases layout
  · exact (Except.ok.inj layout).symm

/-- **Delimited files come back**: every line is as it was, only the hyphens of the header lines
    are kept apart.  No column may be left out, and no line may have more columns than there are
    words for their positions. -/
theorem givesBack_delimited (accepted : new? settings custom = .ok conversion)
    (reversible : Reversible settings conversion source)
    (selected : settings.layout = some .delimited) (kept : settings.skipAnyEmptyColumn = false)
    (kept' : settings.skipEmptyDefaultNamedColumns = false) (served : source.failure? = none)
    (few : ∀ line ∈ conversion.body source, line.length + 1 < UInt64.size) (path : String) :
    conversion.GivesBack source path
      ((conversion.header source).map hyphensApart ++ conversion.body source) := by
  have made := made_of_new? accepted
  obtain ⟨separator, chosen, nonempty⟩ := made.delimited selected
  have all := @Rendering.leaves_eq_false (conversion.rendering.named (conversion.header source))
    (by rw [← kept, ← made.same]; rfl) (by rw [← kept', ← made.same]; rfl)
  have lines := givesBack_of_reversible reversible made chosen (Rendering.total_delimited separator)
    served (fun line inside => Nat.lt_of_le_of_lt
      (Rendering.length_extracted_delimited chosen nonempty line) (few line inside)) path
  have same : (conversion.body source).map
      (conversion.rendering.named (conversion.header source)).restored = conversion.body source :=
    List.map_id'' (fun line => Rendering.restored_delimited chosen nonempty all line) _
  rwa [same] at lines

end

/-- Settings with a header line, from which the columns have their names. -/
def doubledSettings : Settings :=
  { layout := some .delimited, separator := some "aa", namesFromHeaderLine := some 1,
    headerLineCount := 1 }

/-- Lines around a separator that overlaps itself, an empty one among them. -/
theorem givesBack_delimited_overlapping :
    ∃ assembly, wrap ⟨doubledSettings, .utf8, none, some (.delimited ['a', 'a'])⟩
        [.data (Charset.utf8.encode "h--xaa<\naaa,aa&\n\n".toList)] "f.txt" = .ok assembly
      ∧ ∃ blocks : List (List UInt8), assembly.drain.1.map Prod.fst = blocks.map .ok
        ∧ (recover ⟨doubledSettings, .utf8, none, some (.delimited ['a', 'a'])⟩
          (.ofBytes blocks.flatten) {}).result = .ok 3
        ∧ (recover ⟨doubledSettings, .utf8, none, some (.delimited ['a', 'a'])⟩
          (.ofBytes blocks.flatten) {}).sink.accepted =
            Charset.utf8.encode "h- -xaa<\naaa,aa&\n\n".toList := by
  have body : Conversion.body ⟨doubledSettings, .utf8, none, some (.delimited ['a', 'a'])⟩
      [.data (Charset.utf8.encode "h--xaa<\naaa,aa&\n\n".toList)] = ["aaa,aa&".toList, []] := rfl
  obtain ⟨assembly, made, blocks, produced, recovered⟩ := @givesBack_delimited doubledSettings none
    ⟨doubledSettings, .utf8, none, some (.delimited ['a', 'a'])⟩
    [.data (Charset.utf8.encode "h--xaa<\naaa,aa&\n\n".toList)] _ rfl
    ⟨rfl, rfl, by decide, rfl, rfl, fun _ inside => absurd inside List.not_mem_nil, .inl ⟨rfl, rfl⟩⟩
    rfl rfl rfl rfl (by rw [body]; decide) "f.txt"
  obtain ⟨result, accepted⟩ := recovered (.ofBytes blocks.flatten) (Source.failure?_ofBytes _)
    (Source.bytes_ofBytes _) {} ⟨nofun, rfl, rfl⟩
  exact ⟨assembly, made, blocks, produced, result.trans rfl, accepted.trans rfl⟩

section

variable [MultibyteCodecs]

/-- **Lines with columns of some widths come back up to their last full column**, whichever empty
    columns are left out; a line as long as all widths together comes back up to their sum. -/
theorem givesBack_fixed (accepted : new? settings custom = .ok conversion)
    (reversible : Reversible settings conversion source)
    (selected : settings.layout = some .fixed) (served : source.failure? = none)
    (few : settings.columnWidths.length < UInt64.size) (path : String) :
    (conversion.GivesBack source path ((conversion.header source).map hyphensApart
        ++ (conversion.body source).map fun line =>
          line.take (lastBoundary (settings.columnWidths.map UInt64.toNat) line.length)))
      ∧ ∀ length, (settings.columnWidths.map UInt64.toNat).sum ≤ length →
        lastBoundary (settings.columnWidths.map UInt64.toNat) length =
          (settings.columnWidths.map UInt64.toNat).sum := by
  have made := made_of_new? accepted
  have chosen := made.fixed selected
  refine ⟨?_, fun length => lastBoundary_of_sum_le⟩
  have lines := givesBack_of_reversible reversible made chosen (Rendering.total_fixed _) served
    (fun line _ => Nat.lt_of_le_of_lt (Rendering.length_extracted_fixed chosen line)
      (by rwa [List.length_map])) path
  have same : (conversion.rendering.named (conversion.header source)).restored = fun line =>
      line.take (lastBoundary (settings.columnWidths.map UInt64.toNat) line.length) :=
    funext fun line => Rendering.restored_fixed chosen line
  rwa [same] at lines

end

/-- Settings with an empty column between two others, written as attributes where not empty. -/
def narrowSettings : Settings :=
  { layout := some .fixed, columnWidths := [2, 0, 1], columnsAsAttributes := true,
    skipAnyEmptyColumn := true, headerLineCount := 1 }

/-- Lines of all columns, of the first ones and of none. -/
theorem givesBack_fixed_short :
    ∃ assembly, wrap ⟨narrowSettings, .utf8, none, some (.fixed [2, 0, 1])⟩
        [.data (Charset.utf8.encode "---\ná\"<d\nxy\nx".toList)] "f.txt" = .ok assembly
      ∧ ∃ blocks : List (List UInt8), assembly.drain.1.map Prod.fst = blocks.map .ok
        ∧ (recover ⟨narrowSettings, .utf8, none, some (.fixed [2, 0, 1])⟩
          (.ofBytes blocks.flatten) {}).result = .ok 4
        ∧ (recover ⟨narrowSettings, .utf8, none, some (.fixed [2, 0, 1])⟩
          (.ofBytes blocks.flatten) {}).sink.accepted =
            Charset.utf8.encode "- - -\ná\"<\nxy\n\n".toList := by
  have unnamed : Conversion.Unnamed ⟨narrowSettings, .utf8, none, some (.fixed [2, 0, 1])⟩
      [.data (Charset.utf8.encode "---\ná\"<d\nxy\nx".toList)] :=
    ⟨fun _ inside => absurd inside List.not_mem_nil, fun _ inside => absurd inside List.not_mem_nil⟩
  obtain ⟨⟨assembly, made, blocks, produced, recovered⟩, -⟩ := @givesBack_fixed narrowSettings none
    ⟨narrowSettings, .utf8, none, some (.fixed [2, 0, 1])⟩
    [.data (Charset.utf8.encode "---\ná\"<d\nxy\nx".toList)] _ rfl
    ⟨rfl, rfl, by decide, rfl, rfl, fun _ inside => absurd inside List.not_mem_nil,
      .inr ⟨rfl, unnamed, by decide⟩⟩
    rfl rfl (by decide) "f.txt"
  obtain ⟨result, accepted⟩ := recovered (.ofBytes blocks.flatten) (Source.failure?_ofBytes _)
    (Source.bytes_ofBytes _) {} ⟨nofun, rfl, rfl⟩
  exact ⟨assembly, made, blocks, produced, result.trans rfl, accepted.trans (by decide +kernel)⟩

end Conversion

end FlatFile
