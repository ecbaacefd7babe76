/-
  FlatFile/Proofs/Document/Chunks.lean
  ====================================
  **The chunks of a document, told from the lines alone.**

  What an assembly hands out depends on the items of its reader and on nothing else
  that happens on the way: the prologue, a comment for each header line, an element for
  each further line under the names that the header gives, the footer
  (`chunks_header`).  Whether an assembly can be made at all depends neither on its reader
  nor on the origin of the lines (`new?_eq`).
-/
import FlatFile.Document.Drain
import FlatFile.Proofs.Line.Schedule
import FlatFile.Proofs.Line.Ending

namespace FlatFile

/-! ### Chunks from items -/

/-- What a reader hands out, item by item. -/
abbrev Items := List (Except IoFailure (List Char))

variable [MultibyteCodecs]

namespace Rendering

/-- The rendering after the header line `number`, which may give the names of the columns. -/
def afterHeader (rendering : Rendering) (number : Nat) (line : List Char) :
    Except Failure Rendering :=
  if rendering.style.namesLine = some number then
    (rendering.namesFrom line).map fun columnNames => { rendering with columnNames }
  else .ok rendering

variable (charset : Charset)

/-- The chunks of the items after the header, of which `before` lines have been written. -/
def bodyChunks (rendering : Rendering) (before : Nat) : Items → List Chunk
  | [] => [.ok (charset.encode rendering.footer)]
  | .error failure :: _ => [.error (.io failure)]
  | .ok line :: items =>
    match rendering.line (before + 1) line with
    | .ok element => .ok (charset.encode element) :: bodyChunks rendering (before + 1) items
    | .error failure => [.error failure]

/-- The chunks of the items from the header on, of which `before` lines have been written. -/
def headerChunks (rendering : Rendering) (before : Nat) : Items → List Chunk
  | [] => bodyChunks charset rendering 0 []
  | item :: items =>
    if rendering.style.headerLines ≤ before then bodyChunks charset rendering 0 (item :: items)
    else
      match item with
      | .error failure => [.error (.io failure)]
      | .ok line =>
        match rendering.afterHeader (before + 1) line with
        | .ok rendering =>
          .ok (charset.encode (headerComment line)) :: headerChunks rendering (before + 1) items
        | .error failure => [.error failure]

theorem headerChunks_past {rendering : Rendering} {before : Nat}
    (past : rendering.style.headerLines ≤ before) (items : Items) :
    rendering.headerChunks charset before items = rendering.bodyChunks charset 0 items := by
  cases items with
  | nil => rfl
  | cons item items =>
    cases item with
    | error failure => rw [headerChunks, if_pos past]
    | ok line => rw [headerChunks, if_pos past]

end Rendering

namespace Assembly

/-- The chunks of a document, and the failure that may end it. -/
def chunks (assembly : Assembly) : List Chunk := assembly.drain.1.map Prod.fst

theorem chunks_of_next_none {assembly after : Assembly} (h : assembly.next = (none, after)) :
    assembly.chunks = [] := by
  unfold chunks
  rw [drain]
  split
  · rfl
  · rename_i next
    rw [h] at next
    cases next

theorem chunks_of_next_some {assembly after : Assembly} {chunk : Chunk}
    (h : assembly.next = (some chunk, after)) : assembly.chunks = chunk :: after.chunks := by
  unfold chunks
  rw [drain]
  split
  · rename_i next
    rw [h] at next
    cases next
  · rename_i next
    rw [h] at next
    cases next
    rfl

theorem chunks_done {assembly : Assembly} (stage : assembly.stage = .done) :
    assembly.chunks = [] :=
  chunks_of_next_none (by rw [next, stage])

theorem chunks_of_fail {assembly : Assembly} (middle : Assembly) {failure : Failure}
    (h : assembly.next = middle.fail failure) : assembly.chunks = [.error failure] := by
  rw [chunks_of_next_some h, chunks_done rfl]

theorem chunks_of_footer {assembly : Assembly} (middle : Assembly)
    (h : assembly.next = middle.nextFooter) :
    assembly.chunks = [.ok (middle.charset.encode middle.rendering.footer)] := by
  rw [chunks_of_next_some h, chunks_done rfl]
  rfl

theorem chunks_body {items : Items} {assembly : Assembly} (middle : Assembly)
    (h : assembly.next = middle.nextBody) (stage : middle.stage = .body)
    (lines : middle.reader.drain.1 = items) :
    assembly.chunks = middle.rendering.bodyChunks middle.charset middle.bodyLines items := by
  -- A step out of the header goes on like one of the body, so the state that goes on is `middle`.
  induction items generalizing assembly middle with
  | nil =>
    obtain ⟨reader, step⟩ := LineReader.next_of_drain_nil lines
    apply chunks_of_footer { middle with reader, stage := .footer }
    rw [h, nextBody, step]
  | cons item items ih =>
    obtain ⟨reader, step, lines'⟩ := LineReader.next_of_drain_cons lines
    cases item with
    | error failure =>
      apply chunks_of_fail { middle with reader }
      rw [h, nextBody, step]
    | ok line =>
      cases element : middle.rendering.line (middle.bodyLines + 1) line with
      | error failure =>
        rw [Rendering.bodyChunks, element]
        apply chunks_of_fail { middle with reader, bodyLines := middle.bodyLines + 1 }
        rw [h, nextBody, step]
        simp only [element]
      | ok text =>
        have first : assembly.next = (some (.ok (middle.charset.encode text)),
            { middle with reader, bodyLines := middle.bodyLines + 1 }) := by
          rw [h, nextBody, step]
          simp only [element]
          rfl
        rw [Rendering.bodyChunks, element, chunks_of_next_some first]
        refine congrArg _
          (ih { middle with reader, bodyLines := middle.bodyLines + 1 } ?_ stage lines')
        rw [next]
        simp only [stage]

omit [MultibyteCodecs] in
theorem takeHeader_eq (assembly : Assembly) (line : List Char) :
    assembly.takeHeader line =
      (assembly.rendering.afterHeader assembly.headerLines line).map fun rendering =>
        { assembly with rendering } := by
  unfold takeHeader Rendering.afterHeader
  split
  · cases assembly.rendering.namesFrom line with
    | error failure => rfl
    | ok columnNames => rfl
  · rfl

theorem chunks_header_over {items : Items} {assembly : Assembly} (stage : assembly.stage = .header)
    (past : assembly.rendering.style.headerLines ≤ assembly.headerLines)
    (lines : assembly.reader.drain.1 = items) :
    assembly.chunks =
      assembly.rendering.bodyChunks assembly.charset assembly.bodyLines items := by
  refine chunks_body { assembly with stage := .body } ?_ rfl lines
  rw [next, stage]
  simp only [nextHeader, if_pos past]

/-- The chunks from a header on; once the reader has nothing more, it is asked again. -/
theorem chunks_header {items : Items} {assembly : Assembly} (stage : assembly.stage = .header)
    (first : assembly.bodyLines = 0) (lines : assembly.reader.drain.1 = items) :
    assembly.chunks =
      assembly.rendering.headerChunks assembly.charset assembly.headerLines items := by
  induction items generalizing assembly with
  | nil =>
    by_cases past : assembly.rendering.style.headerLines ≤ assembly.headerLines
    · rw [chunks_header_over stage past lines, first]
      rfl
    · obtain ⟨reader, step⟩ := LineReader.next_of_drain_nil lines
      have here : assembly.next = { assembly with reader, stage := .body }.nextBody := by
        rw [next, stage]
        simp only [nextHeader, if_neg past, step]
      rw [chunks_body _ here rfl (LineReader.drain_of_next_none_again step), first]
      rfl
  | cons item items ih =>
    by_cases past : assembly.rendering.style.headerLines ≤ assembly.headerLines
    · rw [chunks_header_over stage past lines, first, Rendering.headerChunks_past _ past]
    · obtain ⟨reader, step, lines'⟩ := LineReader.next_of_drain_cons lines
      have here : assembly.next = assembly.nextHeader := by rw [next, stage]
      rw [nextHeader, if_neg past, step] at here
      cases item with
      | error failure =>
        rw [Rendering.headerChunks, if_neg past]
        exact chunks_of_fail _ here
      | ok line =>
        rw [Rendering.headerChunks, if_neg past]
        simp only [takeHeader_eq] at here
        cases named : assembly.rendering.afterHeader (assembly.headerLines + 1) line with
        | error failure =>
          rw [named] at here
          exact chunks_of_fail _ here
        | ok rendering =>
          rw [named] at here
          rw [chunks_of_next_some here]
          have later := @ih { assembly with
            reader, headerLines := assembly.headerLines + 1, rendering } stage first lines'
          exact congrArg _ later

/-! ### What an assembly takes for granted -/

/-- The assembly before its first chunk. -/
def start (reader : LineReader) (origin : Origin) (charset : Charset) (rendering : Rendering) :
    Assembly :=
  { reader, origin, charset, rendering, stage := .initial, headerLines := 0, bodyLines := 0,
    pending := [] }

/-- What is checked before an assembly is made, and the charset that this gives. -/
def checks (style : DocumentStyle) (layout : Option ColumnLayout) (converters : ColumnConverters) :
    Except Failure Charset := do
  let charset ← style.outputCharset?
  checkName style.rootName
  checkName style.lineName
  checkName style.columnName
  (layout.map ColumnLayout.check).getD (.ok ())
  converters.check
  if style.attributes then
    checkAttributeNames style.reservedNames
      ((style.columnNames.map fun name => Markup.nameOf? name.toList).filterMap id)
  return charset

/-- The rendering of the first header line, under the names that are configured. -/
def initialRendering (style : DocumentStyle) (layout : Option ColumnLayout)
    (converters : ColumnConverters) : Rendering :=
  { style, layout, converters,
    columnNames := style.columnNames.map fun name => Markup.nameOf? name.toList }

omit [MultibyteCodecs] in
/-- Making an assembly is checking its settings; reader and origin have no part in it. -/
theorem new?_eq (reader : LineReader) (origin : Origin) (style : DocumentStyle)
    (layout : Option ColumnLayout) (converters : ColumnConverters) :
    new? reader origin style layout converters =
      (checks style layout converters).map fun charset =>
        start reader origin charset (initialRendering style layout converters) := by
  unfold new? checks
  rcases style.outputCharset? with failure | charset
  · rfl
  rcases checkName style.rootName with failure | ⟨⟩
  · rfl
  rcases checkName style.lineName with failure | ⟨⟩
  · rfl
  rcases checkName style.columnName with failure | ⟨⟩
  · rfl
  cases layout with
  | none =>
    rcases converters.check with failure | ⟨⟩
    · rfl
    cases style.attributes with
    | false => rfl
    | true =>
      simp only [if_true]
      cases checkAttributeNames style.reservedNames _ with
      | error failure => rfl
      | ok _ => rfl
  | some chosen =>
    simp only [Option.map_some, Option.getD_some]
    cases chosen.check with
    | error failure => rfl
    | ok _ =>
      rcases converters.check with failure | ⟨⟩
      · rfl
      cases style.attributes with
      | false => rfl
      | true =>
        simp only [if_true]
        cases checkAttributeNames style.reservedNames _ with
        | error failure => rfl
        | ok _ => rfl

/-- What is known of a presentation and a layout that have been checked. -/
structure Accepts (style : DocumentStyle) (layout : Option ColumnLayout) : Prop where
  root : Markup.isName style.rootName.toList = true
  line : Markup.isName style.lineName.toList = true
  column : Markup.isName style.columnName.toList = true
  layout : ∀ chosen, layout = some chosen → chosen.check = .ok ()

section

omit [MultibyteCodecs]

theorem bind_eq_ok {α β : Type} {first : Except Failure α} {next : α → Except Failure β} {b : β}
    (h : (first >>= next) = .ok b) : ∃ a, first = .ok a ∧ next a = .ok b := by
  cases first with
  | error failure => cases h
  | ok a => exact ⟨a, rfl, h⟩

theorem isName_of_checkName {name : String} (h : checkName name = .ok ()) :
    Markup.isName name.toList = true := by
  unfold checkName at h
  split at h
  · assumption
  · cases h

theorem accepts_of_checks {style : DocumentStyle} {layout : Option ColumnLayout}
    {converters : ColumnConverters} {charset : Charset}
    (h : checks style layout converters = .ok charset) :
    style.outputCharset? = .ok charset ∧ Accepts style layout := by
  unfold checks at h
  obtain ⟨output, resolved, h⟩ := bind_eq_ok h
  obtain ⟨⟨⟩, root, h⟩ := bind_eq_ok h
  obtain ⟨⟨⟩, line, h⟩ := bind_eq_ok h
  obtain ⟨⟨⟩, column, h⟩ := bind_eq_ok h
  obtain ⟨⟨⟩, checked, h⟩ := bind_eq_ok h
  obtain ⟨⟨⟩, -, h⟩ := bind_eq_ok h
  have same : output = charset := by
    cases attributes : style.attributes with
    | false =>
      rw [attributes] at h
      cases h
      rfl
    | true =>
      rw [attributes] at h
      obtain ⟨⟨⟩, -, h⟩ := bind_eq_ok h
      cases h
      rfl
  refine ⟨same ▸ resolved, isName_of_checkName root, isName_of_checkName line,
    isName_of_checkName column, ?_⟩
  rintro chosen rfl
  exact checked

end

end Assembly

end FlatFile
