/-
  FlatFile/Proofs/Document/Reading.lean
  =====================================
  **The document of a file is read back as what it was made of.**

  The chunks of a document in UTF-8 decode to its text, which spans the passages of its
  trees after the declaration (`spans_documentText`).  So a reader of documents finds
  these trees and no other (`forest?_wrap`): a root, a comment for each header line and
  an element for each further line, whatever characters the file is made of.

  The settings enter through what is known of a conversion that was accepted
  (`Conversion.Made`).
-/
import FlatFile.Charset.AsciiOnly
import FlatFile.Conversion
import FlatFile.Proofs.Document.Meaning
import FlatFile.Proofs.Markup.Transcoded

namespace FlatFile

open Markup

/-! ### The text of a document -/

namespace Rendering

variable (rendering : Rendering) (origin : Origin) (header body : List (List Char))

/-- A document begins with the first character of a piece of markup. -/
theorem documentText_cons (charset : Charset) :
    ∃ rest, rendering.documentText origin charset header body = '<' :: rest := by
  have root : ∃ rest, (rendering.rootNode origin header body).render = '<' :: rest :=
    ⟨_, rootNode_render rendering origin header body⟩
  rcases root with ⟨rest, root⟩
  unfold documentText documentNodes
  split
  · exact ⟨_, rfl⟩
  · exact ⟨rest, by simp [render, root]⟩

/-- How many declarations stand before the trees of a document. -/
def declarations : Nat := if rendering.style.declaration then 1 else 0

variable {rendering header body}

/-- **The text of a document spans the passages of its trees**, after the declaration. -/
theorem spans_documentText {origin : Origin} {charset : Charset}
    (plain : '>' ∉ charset.name.toList)
    (tidy : Tidy (rendering.documentNodes origin header body)) :
    Spans [] [] (rendering.documentText origin charset header body)
      (List.replicate rendering.declarations ⟨[], .other⟩
        ++ (outline [] (rendering.documentNodes origin header body)).1)
      (outline [] (rendering.documentNodes origin header body)).2 [] := by
  have trees := spans_render tidy [] []
  unfold documentText declarations
  split
  · exact (spans_declaration [] [] plain).append trees
  · exact trees

variable [MultibyteCodecs]

theorem decode_documentText (origin : Origin) (charset : Charset) (header body : List (List Char)) :
    Charset.utf8.decode (Charset.utf8.encode (rendering.documentText origin charset header body)) =
      rendering.documentText origin charset header body := by
  obtain ⟨rest, first⟩ := documentText_cons rendering origin header body charset
  have other : '<' ≠ byteOrderMark := by decide
  rw [Charset.decode_encode_utf8, first, Decoder.dropMark, if_neg other]

theorem forest?_documentText {origin : Origin} {charset : Charset}
    (plain : '>' ∉ charset.name.toList)
    (tidy : Tidy (rendering.documentNodes origin header body)) :
    forest? (rendering.documentText origin charset header body) =
      some (rendering.documentNodes origin header body) := by
  obtain ⟨rest, first⟩ := documentText_cons rendering origin header body charset
  have leads : Spans [] [] (if rendering.style.declaration then declaration charset.name else [])
      (List.replicate rendering.declarations ⟨[], .other⟩) [] [] := by
    unfold declarations
    split
    · exact spans_declaration [] [] plain
    · exact .nil [] []
  have inside : ComesThrough .utf8 [] (rendering.documentNodes origin header body) :=
    comesThrough_of_tidy tidy (fun _ _ c _ => Charset.keeps_utf8 c) [] (.inl rfl)
  have whole : rendering.documentText origin charset header body =
      (if rendering.style.declaration then declaration charset.name else [])
        ++ Charset.utf8.conveyed (render (rendering.documentNodes origin header body)) := by
    rw [documentText, Charset.conveyed_eq_self fun c _ => Charset.keeps_utf8 c]
  rw [forest?_of_comesThrough leads inside whole,
    through_eq_self (fun _ _ _ _ => rfl) fun _ _ c _ => Charset.keeps_utf8 c]
  · rw [first, List.head?_cons]
    decide
  · rw [first]
    exact List.cons_ne_nil _ _

end Rendering

/-! ### Conversions -/

namespace Conversion

/-- What is known of a conversion that was made of settings. -/
structure Made (settings : Settings) (custom : Option LineSplitter) (conversion : Conversion) :
    Prop where
  same : conversion.settings = settings
  charset : Charset.resolve? settings.encoding = .ok conversion.charset
  terminator : Line.terminator? settings.lineTerminator = .ok conversion.terminator
  layout : settings.columnLayout custom = .ok conversion.layout
  checks : ∃ output, Assembly.checks settings.style conversion.layout settings.columnConverters =
    .ok output

section

variable [MultibyteCodecs]

theorem made_of_new? {settings : Settings} {custom : Option LineSplitter} {conversion : Conversion}
    (accepted : new? settings custom = .ok conversion) : Made settings custom conversion := by
  unfold new? assembly? at accepted
  obtain ⟨charset, resolved, accepted⟩ := Assembly.bind_eq_ok accepted
  obtain ⟨terminator, terminated, accepted⟩ := Assembly.bind_eq_ok accepted
  obtain ⟨⟨⟩, -, accepted⟩ := Assembly.bind_eq_ok accepted
  obtain ⟨layout, selected, accepted⟩ := Assembly.bind_eq_ok accepted
  obtain ⟨assembly, checked, accepted⟩ := Assembly.bind_eq_ok accepted
  cases accepted
  rw [Assembly.new?_eq] at checked
  refine ⟨rfl, resolved, terminated, selected, ?_⟩
  cases checks : Assembly.checks settings.style layout settings.columnConverters with
  | error failure =>
    rw [checks] at checked
    cases checked
  | ok output => exact ⟨output, rfl⟩

/-- The rendering that a document starts with. -/
def rendering (conversion : Conversion) : Rendering :=
  Assembly.initialRendering conversion.settings.style conversion.layout
    conversion.settings.columnConverters

def lines (conversion : Conversion) (source : Source) : List (List Char) :=
  Line.splitLines conversion.terminator (conversion.charset.decode source.bytes)

def header (conversion : Conversion) (source : Source) : List (List Char) :=
  (conversion.lines source).take conversion.settings.headerLineCount.toNat

def body (conversion : Conversion) (source : Source) : List (List Char) :=
  (conversion.lines source).drop conversion.settings.headerLineCount.toNat

/-- **What the document of a file says.** -/
def documentTrees (conversion : Conversion) (source : Source) (path : String) : List Node :=
  (conversion.rendering.named (conversion.header source)).documentNodes (.ofPath path)
    (conversion.header source) (conversion.body source)

variable {settings : Settings} {custom : Option LineSplitter} {conversion : Conversion}

/-- A conversion that was accepted makes a document of every file. -/
theorem Made.wrap_eq (made : Made settings custom conversion) {output : Charset}
    (resolved : settings.style.outputCharset? = .ok output) (source : Source) (path : String) :
    conversion.wrap source path =
      .ok (.start (.new source conversion.charset conversion.terminator) (.ofPath path) output
        conversion.rendering) := by
  rcases made.checks with ⟨output', checks⟩
  have same : output' = output := by
    have resolved' := (Assembly.accepts_of_checks checks).1
    rw [resolved] at resolved'
    exact (Except.ok.inj resolved').symm
  subst same
  rw [wrap, assembly?, rendering, made.same, Assembly.new?_eq, checks]
  rfl

omit [MultibyteCodecs] in
theorem Made.escape (made : Made settings custom conversion)
    (escaping : settings.defaultEscape = true) :
    conversion.rendering.converters.escape = true := by
  rw [← escaping, ← made.same]
  rfl

omit [MultibyteCodecs] in
theorem Made.faithful (made : Made settings custom conversion)
    (escaping : settings.defaultEscape = true)
    (unconverted : ∀ converter ∈ settings.converters, converter = none)
    (header : List (List Char)) : (conversion.rendering.named header).Faithful := by
  constructor
  · intro index
    have same : (conversion.rendering.named header).converters = settings.columnConverters := by
      rw [← made.same]
      rfl
    rw [same, ColumnConverters.converter?]
    cases own : settings.columnConverters.converters[index]? with
    | none => rfl
    | some converter => rw [unconverted converter (List.mem_of_getElem? own), Option.join_some]
  · exact made.escape escaping

theorem Made.tidy (made : Made settings custom conversion) (source : Source) (path : String) :
    Tidy (conversion.documentTrees source path) := by
  rcases made.checks with ⟨output, checks⟩
  have accepts := (Assembly.accepts_of_checks checks).2
  rw [← made.same] at accepts
  exact Rendering.tidy_documentNodes
    ((Rendering.properNames_initial _ _ _).named (conversion.header source)) accepts _ _ _

/-- **The bytes of a document without a failure** are its text, encoded at once. -/
theorem Made.blocks_eq (made : Made settings custom conversion)
    (escaping : settings.defaultEscape = true)
    (unconverted : ∀ converter ∈ settings.converters, converter = none) {source : Source}
    {origin : Origin} {output : Charset} (charwise : output.Charwise)
    {blocks : List (List UInt8)}
    (produced : (Assembly.start (.new source conversion.charset conversion.terminator) origin
      output conversion.rendering).chunks = blocks.map .ok) :
    blocks.flatten = output.encode ((conversion.rendering.named
      (conversion.header source)).documentText origin output (conversion.header source)
        (conversion.body source)) := by
  obtain ⟨after, elements, taken, written, rfl⟩ := Assembly.blocks_of_start produced
  have named := Rendering.afterLines_eq_named taken
  rw [charwise.encode_flatten]
  apply congrArg _
  subst named
  exact Rendering.texts_flatten (made.faithful escaping unconverted _) written

/-- **Reading a document gives what its file says.**  Whatever the settings and the file, if the
    document comes without a failure, a reader finds the root with what it says of the file, a
    comment for each header line and an element for each further line, with the attributes and
    columns of just this line. -/
theorem forest?_wrap (accepted : new? settings custom = .ok conversion)
    (escaping : settings.defaultEscape = true)
    (unconverted : ∀ converter ∈ settings.converters, converter = none)
    (output : settings.style.outputCharset? = .ok .utf8) (source : Source) (path : String) :
    ∃ assembly, conversion.wrap source path = .ok assembly
      ∧ ∀ blocks : List (List UInt8), assembly.drain.1.map Prod.fst = blocks.map .ok →
        forest? (Charset.utf8.decode blocks.flatten) =
          some (conversion.documentTrees source path) := by
  have made := made_of_new? accepted
  refine ⟨_, made.wrap_eq output source path, fun blocks produced => ?_⟩
  rw [made.blocks_eq escaping unconverted .utf8 produced, Rendering.decode_documentText]
  exact Rendering.forest?_documentText (by decide) (made.tidy source path)

end

def commaSettings : Settings :=
  { layout := some .delimited, separator := some ",", columnNames := ["a"], headerLineCount := 1 }

/-- A file of markup characters, with two hyphens in its header, as it is read back. -/
theorem forest?_wrap_markup :
    ∃ assembly, wrap ⟨commaSettings, .utf8, none, some (.delimited [','])⟩
        [.data (Charset.utf8.encode "h--x\n<&,\"'\n".toList)] "dir/f.txt" = .ok assembly
      ∧ ∃ blocks : List (List UInt8), assembly.drain.1.map Prod.fst = blocks.map .ok
        ∧ forest? (Charset.utf8.decode blocks.flatten) = some [.text ['\n'],
          .element "DocElement".toList
            [("name".toList, "f.txt".toList), ("location".toList, "dir/f.txt".toList)]
            [.text "\n  ".toList, .comment " h- -x ".toList,
              .text "\n  ".toList, .element "Line".toList [("number".toList, ['1'])]
                [.text "\n    ".toList, .element ['a'] [("number".toList, ['1'])] [.text ['<', '&']],
                  .text "\n    ".toList,
                  .element "Col".toList [("number".toList, ['2'])] [.text ['"', '\'']],
                  .text "\n  ".toList],
              .text ['\n']]] := by
  obtain ⟨assembly, made, read⟩ := @forest?_wrap _ commaSettings none
    ⟨commaSettings, .utf8, none, some (.delimited [','])⟩ rfl rfl
    (fun _ inside => absurd inside List.not_mem_nil) rfl
    [.data (Charset.utf8.encode "h--x\n<&,\"'\n".toList)] "dir/f.txt"
  refine ⟨assembly, made, ?_⟩
  cases made
  obtain ⟨blocks, produced⟩ := Assembly.exists_blocks
    [.data (Charset.utf8.encode "h--x\n<&,\"'\n".toList)]
    (rendering ⟨commaSettings, .utf8, none, some (.delimited [','])⟩) rfl
    (Rendering.total_delimited [',']) .utf8 .utf8 none (.ofPath "dir/f.txt")
  exact ⟨blocks, produced, (read blocks produced).trans rfl⟩

end Conversion

end FlatFile
