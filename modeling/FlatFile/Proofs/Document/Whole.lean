/-
  FlatFile/Proofs/Document/Whole.lean
  ===================================
  **A document without a failure holds every line.**

  Where no chunk is a failure, the source came to its end, each of its lines has become
  a comment or an element, and the chunks are the texts of these, each encoded by itself
  (`blocks_of_start`).  A layout that divides the lines fails on none of them
  (`exists_blocks_of_divides`).
-/
import FlatFile.Proofs.Document.Chunks

namespace FlatFile

/-! ### Lists without a failure -/

theorem failure_cons_ne {failure : Failure} {chunks : List Chunk} {blocks : List (List UInt8)} :
    .error failure :: chunks ≠ blocks.map (.ok : List UInt8 → Chunk) := by
  intro h
  rcases List.map_eq_cons_iff.mp h.symm with ⟨block, others, -, first, -⟩
  cases first

theorem block_cons_eq {block : List UInt8} {chunks : List Chunk} {blocks : List (List UInt8)}
    (h : .ok block :: chunks = blocks.map (.ok : List UInt8 → Chunk)) :
    ∃ others, blocks = block :: others ∧ chunks = others.map .ok := by
  rcases List.map_eq_cons_iff.mp h.symm with ⟨first, others, rfl, same, rest⟩
  cases same
  exact ⟨others, rfl, rest.symm⟩

variable [MultibyteCodecs]

namespace Rendering

/-! ### The lines of a document -/

/-- The elements of the lines after the header, of which `before` have been written. -/
def elements (rendering : Rendering) (before : Nat) :
    List (List Char) → Except Failure (List (List Char))
  | [] => .ok []
  | line :: lines => do
    let element ← rendering.line (before + 1) line
    let others ← rendering.elements (before + 1) lines
    return element :: others

/-- The rendering after some header lines, of which the first one is `before + 1`. -/
def afterLines (rendering : Rendering) (before : Nat) :
    List (List Char) → Except Failure Rendering
  | [] => .ok rendering
  | line :: lines => do
    let rendering ← rendering.afterHeader (before + 1) line
    rendering.afterLines (before + 1) lines

/-- The texts of the chunks of a document, of which the header lines and the elements of the
    other lines are given. -/
def texts (rendering : Rendering) (origin : Origin) (charset : Charset)
    (header elements : List (List Char)) : List (List Char) :=
  rendering.prologue origin charset
    :: (header.map headerComment ++ (elements ++ [rendering.footer]))

variable {charset : Charset} {items : Items} {blocks : List (List UInt8)}

section

omit [MultibyteCodecs]

/-- A header line changes nothing but the names of the columns. -/
theorem eq_of_afterHeader {rendering after : Rendering} {number : Nat} {line : List Char}
    (h : rendering.afterHeader number line = .ok after) :
    ∃ columnNames, after = { rendering with columnNames } := by
  unfold afterHeader at h
  split at h
  · cases names : rendering.namesFrom line with
    | error failure =>
      rw [names] at h
      cases h
    | ok columnNames =>
      rw [names] at h
      cases h
      exact ⟨columnNames, rfl⟩
  · cases h
    exact ⟨rendering.columnNames, rfl⟩

theorem afterHeader_style {rendering after : Rendering} {number : Nat} {line : List Char}
    (h : rendering.afterHeader number line = .ok after) :
    after.style = rendering.style ∧ after.layout = rendering.layout := by
  obtain ⟨columnNames, rfl⟩ := eq_of_afterHeader h
  exact ⟨rfl, rfl⟩

theorem afterLines_style {rendering after : Rendering} {before : Nat} {lines : List (List Char)}
    (h : rendering.afterLines before lines = .ok after) : after.style = rendering.style := by
  induction lines generalizing rendering before with
  | nil =>
    cases h
    rfl
  | cons line lines ih =>
    obtain ⟨next, first, rest⟩ := Assembly.bind_eq_ok h
    exact (ih rest).trans (afterHeader_style first).1

end

theorem bodyChunks_whole {rendering : Rendering} {before : Nat}
    (h : rendering.bodyChunks charset before items = blocks.map .ok) :
    ∃ (lines elements : List (List Char)), items = lines.map .ok
      ∧ rendering.elements before lines = .ok elements
      ∧ blocks = (elements ++ [rendering.footer]).map charset.encode := by
  induction items generalizing before blocks with
  | nil =>
    obtain ⟨others, rfl, rest⟩ := block_cons_eq h
    rw [List.map_eq_nil_iff.mp rest.symm]
    exact ⟨[], [], rfl, rfl, rfl⟩
  | cons item items ih =>
    cases item with
    | error failure => exact absurd h failure_cons_ne
    | ok line =>
      rw [bodyChunks] at h
      cases element : rendering.line (before + 1) line with
      | error failure =>
        rw [element] at h
        exact absurd h failure_cons_ne
      | ok text =>
        rw [element] at h
        obtain ⟨others, rfl, rest⟩ := block_cons_eq h
        obtain ⟨lines, elements, rfl, written, rfl⟩ := ih rest
        refine ⟨line :: lines, text :: elements, rfl, ?_, rfl⟩
        rw [Rendering.elements, element, written]
        rfl

theorem headerChunks_whole {rendering : Rendering} {before : Nat}
    (h : rendering.headerChunks charset before items = blocks.map .ok) :
    ∃ (lines : List (List Char)) (after : Rendering) (elements : List (List Char)),
      items = lines.map .ok
      ∧ rendering.afterLines before (lines.take (rendering.style.headerLines - before)) = .ok after
      ∧ after.elements 0 (lines.drop (rendering.style.headerLines - before)) = .ok elements
      ∧ blocks = ((lines.take (rendering.style.headerLines - before)).map headerComment
          ++ (elements ++ [after.footer])).map charset.encode := by
  induction items generalizing rendering before blocks with
  | nil =>
    obtain ⟨lines, elements, none, written, same⟩ := bodyChunks_whole h
    rw [List.map_eq_nil_iff.mp none.symm] at written
    exact ⟨[], rendering, elements, rfl, by rw [List.take_nil]; rfl, by simpa using written,
      by simpa using same⟩
  | cons item items ih =>
    by_cases past : rendering.style.headerLines ≤ before
    · rw [headerChunks_past charset past] at h
      obtain ⟨lines, elements, same, written, same'⟩ := bodyChunks_whole h
      rw [Nat.sub_eq_zero_of_le past]
      exact ⟨lines, rendering, elements, same, rfl, written, same'⟩
    · cases item with
      | error failure =>
        rw [headerChunks, if_neg past] at h
        exact absurd h failure_cons_ne
      | ok line =>
        rw [headerChunks, if_neg past] at h
        cases named : rendering.afterHeader (before + 1) line with
        | error failure =>
          rw [named] at h
          exact absurd h failure_cons_ne
        | ok next =>
          rw [named] at h
          obtain ⟨others, rfl, rest⟩ := block_cons_eq h
          obtain ⟨lines, after, elements, rfl, taken, written, rfl⟩ := ih rest
          rw [(afterHeader_style named).1] at taken written ⊢
          have count : rendering.style.headerLines - before =
              rendering.style.headerLines - (before + 1) + 1 := by omega
          rw [count]
          refine ⟨line :: lines, after, elements, rfl, ?_, written, rfl⟩
          rw [List.take_succ_cons, afterLines, named]
          exact taken

/-! ### Layouts that divide the lines -/

/-- A layout that does not fail on a line. -/
def Divides (layout : Option ColumnLayout) (line : List Char) : Prop :=
  ∀ chosen, layout = some chosen → ∃ columns, chosen.columns line = .ok columns

/-- A layout that fails on no line. -/
def Total (layout : Option ColumnLayout) : Prop :=
  ∀ chosen, layout = some chosen → ∀ line, ∃ columns, chosen.columns line = .ok columns

section

omit [MultibyteCodecs]

theorem Total.divides {layout : Option ColumnLayout} (total : Total layout) (line : List Char) :
    Divides layout line :=
  fun chosen same => total chosen same line

theorem total_delimited (separator : List Char) : Total (some (.delimited separator)) := by
  rintro chosen ⟨⟩ line
  unfold ColumnLayout.columns
  split
  · exact ⟨_, rfl⟩
  · exact ⟨_, rfl⟩

theorem total_fixed (widths : List Nat) : Total (some (.fixed widths)) := by
  rintro chosen ⟨⟩ line
  unfold ColumnLayout.columns
  split
  · exact ⟨_, rfl⟩
  · exact ⟨_, rfl⟩

/-- **What is written of a line** is an element on a line of its own, with the text of the line or
    with the columns into which the layout divides it. -/
theorem element_of_line {rendering : Rendering} {number : Nat} {line text : List Char}
    (written : rendering.line number line = .ok text) :
    ∃ element, text = indent ++ element ++ ['\n']
      ∧ (rendering.layout = none
          ∧ element = rendering.verbatimElement (rendering.lineAttributes number line) line
        ∨ ∃ chosen columns, rendering.layout = some chosen ∧ chosen.columns line = .ok columns
          ∧ element = rendering.columnsElement (rendering.lineAttributes number line)
            (rendering.writtenColumns (columns.getD []))) := by
  unfold Rendering.line at written
  cases layout : rendering.layout with
  | none =>
    rw [layout] at written
    cases written
    exact ⟨_, rfl, .inl ⟨rfl, rfl⟩⟩
  | some chosen =>
    cases divided : chosen.columns line with
    | error failure =>
      simp only [layout, divided] at written
      cases written
    | ok columns =>
      simp only [layout, divided, Except.ok.injEq] at written
      exact ⟨_, written.symm, .inr ⟨chosen, columns, rfl, divided, rfl⟩⟩

theorem divides_of_line {rendering : Rendering} {number : Nat} {line element : List Char}
    (written : rendering.line number line = .ok element) : Divides rendering.layout line := by
  intro chosen layout
  obtain ⟨-, -, ⟨undivided, -⟩ | ⟨chosen', columns, layout', divided, -⟩⟩ := element_of_line written
  · rw [layout] at undivided
    cases undivided
  · cases layout.symm.trans layout'
    exact ⟨columns, divided⟩

/-- Lines that have been written are lines that could be divided. -/
theorem divides_of_elements {rendering : Rendering} {before : Nat}
    {lines elements : List (List Char)} (written : rendering.elements before lines = .ok elements) :
    ∀ line ∈ lines, Divides rendering.layout line := by
  induction lines generalizing before elements with
  | nil => exact fun line inside => absurd inside List.not_mem_nil
  | cons first lines ih =>
    obtain ⟨element, here, written⟩ := Assembly.bind_eq_ok written
    obtain ⟨others, rest, -⟩ := Assembly.bind_eq_ok written
    exact List.forall_mem_cons.mpr ⟨divides_of_line here, ih rest⟩

theorem exists_line {rendering : Rendering} {line : List Char}
    (divides : Divides rendering.layout line) (number : Nat) :
    ∃ element, rendering.line number line = .ok element := by
  unfold Rendering.line
  cases chosen : rendering.layout with
  | none => exact ⟨_, rfl⟩
  | some layout =>
    obtain ⟨columns, divided⟩ := divides layout chosen
    simp only [divided]
    exact ⟨_, rfl⟩

theorem exists_afterHeader {rendering : Rendering} {line : List Char}
    (divides : Divides rendering.layout line) (number : Nat) :
    ∃ after, rendering.afterHeader number line = .ok after := by
  unfold afterHeader namesFrom
  split
  · cases chosen : rendering.layout with
    | none => exact ⟨_, rfl⟩
    | some layout =>
      obtain ⟨columns, divided⟩ := divides layout chosen
      simp only [divided]
      exact ⟨_, rfl⟩
  · exact ⟨_, rfl⟩

/-- Other header lines give the names of the columns as well, if they can be divided where these
    can. -/
theorem exists_afterHeader_of_divides {rendering after other : Rendering}
    {line line' : List Char} {number : Nat} (named : rendering.afterHeader number line = .ok after)
    (style : other.style = rendering.style) (layout : other.layout = rendering.layout)
    (keeps : Divides rendering.layout line → Divides rendering.layout line') :
    ∃ after', other.afterHeader number line' = .ok after' := by
  unfold afterHeader at named
  split at named
  · rename_i own
    obtain ⟨names, divided, -⟩ := Assembly.bind_eq_ok named
    apply exists_afterHeader
    rw [layout]
    apply keeps
    intro chosen same
    simp only [namesFrom, same] at divided
    cases cut : chosen.columns line with
    | error failure =>
      rw [cut] at divided
      cases divided
    | ok columns => exact ⟨columns, rfl⟩
  · rename_i another
    exact ⟨other, by rw [afterHeader, style, if_neg another]⟩

end

theorem exists_bodyBlocks {rendering : Rendering} {lines : List (List Char)}
    (divides : ∀ line ∈ lines, Divides rendering.layout line) (charset : Charset) (before : Nat) :
    ∃ blocks : List (List UInt8),
      rendering.bodyChunks charset before (lines.map .ok) = blocks.map .ok := by
  induction lines generalizing before with
  | nil => exact ⟨[_], rfl⟩
  | cons line lines ih =>
    rcases List.forall_mem_cons.mp divides with ⟨here, others⟩
    obtain ⟨element, written⟩ := exists_line here (before + 1)
    obtain ⟨blocks, rest⟩ := ih others (before + 1)
    refine ⟨charset.encode element :: blocks, ?_⟩
    rw [List.map_cons, bodyChunks, written, List.map_cons, rest]

/-- Header lines that give the names of the columns, if they are to, and further lines that are
    divided make a document. -/
theorem exists_headerBlocks_of_afterLines {rendering after : Rendering} {before : Nat}
    {lines : List (List Char)}
    (taken : rendering.afterLines before (lines.take (rendering.style.headerLines - before)) =
      .ok after)
    (divides : ∀ line ∈ lines.drop (rendering.style.headerLines - before),
      Divides rendering.layout line) (charset : Charset) :
    ∃ blocks : List (List UInt8),
      rendering.headerChunks charset before (lines.map .ok) = blocks.map .ok := by
  induction lines generalizing rendering before with
  | nil => exact exists_bodyBlocks (fun line inside => absurd inside List.not_mem_nil) charset 0
  | cons line lines ih =>
    rw [List.map_cons, headerChunks]
    by_cases past : rendering.style.headerLines ≤ before
    · rw [if_pos past]
      rw [Nat.sub_eq_zero_of_le past, List.drop_zero] at divides
      exact exists_bodyBlocks divides charset 0
    · have count : rendering.style.headerLines - before =
          rendering.style.headerLines - (before + 1) + 1 := by omega
      rw [count, List.take_succ_cons] at taken
      rw [count, List.drop_succ_cons] at divides
      obtain ⟨next, named, others⟩ := Assembly.bind_eq_ok taken
      obtain ⟨style, layout⟩ := afterHeader_style named
      rw [← style] at others divides
      rw [← layout] at divides
      obtain ⟨blocks, rest⟩ := ih others divides
      refine ⟨charset.encode (headerComment line) :: blocks, ?_⟩
      rw [if_neg past, named, List.map_cons]
      exact congrArg _ rest

omit [MultibyteCodecs] in
theorem exists_afterLines {rendering : Rendering} {lines : List (List Char)}
    (divides : ∀ line ∈ lines, Divides rendering.layout line) (before : Nat) :
    ∃ after, rendering.afterLines before lines = .ok after := by
  induction lines generalizing rendering before with
  | nil => exact ⟨rendering, rfl⟩
  | cons line lines ih =>
    rcases List.forall_mem_cons.mp divides with ⟨here, others⟩
    obtain ⟨next, named⟩ := exists_afterHeader here (before + 1)
    rw [← (afterHeader_style named).2] at others
    obtain ⟨after, rest⟩ := ih others (before + 1)
    exact ⟨after, by rw [afterLines, named]; exact rest⟩

omit [MultibyteCodecs] in
theorem exists_afterLines_map {rendering after other : Rendering} {lines : List (List Char)}
    {before : Nat} {change : List Char → List Char}
    (taken : rendering.afterLines before lines = .ok after) (style : other.style = rendering.style)
    (layout : other.layout = rendering.layout)
    (keeps : ∀ line, Divides rendering.layout line → Divides rendering.layout (change line)) :
    ∃ after', other.afterLines before (lines.map change) = .ok after' := by
  induction lines generalizing rendering other before with
  | nil => exact ⟨other, rfl⟩
  | cons line lines ih =>
    obtain ⟨next, first, rest⟩ := Assembly.bind_eq_ok taken
    obtain ⟨next', first'⟩ := exists_afterHeader_of_divides first style layout (keeps line)
    obtain ⟨style', layout'⟩ := afterHeader_style first
    obtain ⟨style'', layout''⟩ := afterHeader_style first'
    obtain ⟨after', rest'⟩ := ih rest (style''.trans (style.trans style'.symm))
      (layout''.trans (layout.trans layout'.symm)) (by rwa [layout'])
    exact ⟨after', by rw [List.map_cons, afterLines, first']; exact rest'⟩

end Rendering

/-! ### Documents -/

namespace Assembly

variable {source : Source} {charset output : Charset} {terminator : Line.Terminator}
  {origin : Origin} {rendering : Rendering}

theorem chunks_start (reader : LineReader) (origin : Origin) (output : Charset)
    (rendering : Rendering) :
    (start reader origin output rendering).chunks =
      .ok (output.encode (rendering.prologue origin output))
        :: rendering.headerChunks output 0 reader.drain.1 := by
  rw [chunks_of_next_some rfl]
  exact congrArg _ (chunks_header rfl rfl rfl)

/-- **A document without a failure holds every line of its source**, each in its place. -/
theorem blocks_of_start {blocks : List (List UInt8)}
    (produced : (start (.new source charset terminator) origin output rendering).chunks =
      blocks.map .ok) :
    ∃ (after : Rendering) (elements : List (List Char)), rendering.afterLines 0
        ((Line.splitLines terminator (charset.decode source.bytes)).take rendering.style.headerLines)
          = .ok after
      ∧ after.elements 0 ((Line.splitLines terminator (charset.decode source.bytes)).drop
          rendering.style.headerLines) = .ok elements
      ∧ blocks = (after.texts origin output ((Line.splitLines terminator
          (charset.decode source.bytes)).take rendering.style.headerLines) elements).map
            output.encode := by
  rw [chunks_start] at produced
  obtain ⟨others, rfl, rest⟩ := block_cons_eq produced
  obtain ⟨lines, after, elements, items, taken, written, rfl⟩ := Rendering.headerChunks_whole rest
  have served : source.failure? = none := by
    cases failure : source.failure? with
    | none => rfl
    | some failure' =>
      have inside := LineReader.failure_mem_drain failure charset terminator
      rw [items] at inside
      rcases List.mem_map.mp inside with ⟨line, -, same⟩
      cases same
  have all := (LineReader.drain_eq (LineReader.sound_new served charset terminator)).1
  rw [items, LineReader.owed_new] at all
  have same : lines = Line.splitLines terminator (charset.decode source.bytes) :=
    (List.map_inj_right fun _ _ h => Except.ok.inj h).mp all
  rw [← same]
  refine ⟨after, elements, taken, written, ?_⟩
  have prologue : after.prologue origin output = rendering.prologue origin output := by
    unfold Rendering.prologue
    rw [Rendering.afterLines_style taken]
  rw [Rendering.texts, prologue]
  rfl

/-- A source that comes to its end has a document, if its header lines give the names of the
    columns where they are to, and its further lines are divided. -/
theorem exists_blocks_of_afterLines {source : Source} {rendering after : Rendering}
    (served : source.failure? = none)
    (taken : rendering.afterLines 0 ((Line.splitLines terminator
      (charset.decode source.bytes)).take rendering.style.headerLines) = .ok after)
    (divides : ∀ line ∈ (Line.splitLines terminator (charset.decode source.bytes)).drop
      rendering.style.headerLines, Rendering.Divides rendering.layout line)
    (output : Charset) (origin : Origin) :
    ∃ blocks : List (List UInt8),
      (start (.new source charset terminator) origin output rendering).chunks = blocks.map .ok := by
  have all := (LineReader.drain_eq (LineReader.sound_new served charset terminator)).1
  rw [LineReader.owed_new] at all
  obtain ⟨blocks, rest⟩ := Rendering.exists_headerBlocks_of_afterLines taken divides output
  refine ⟨output.encode (rendering.prologue origin output) :: blocks, ?_⟩
  rw [chunks_start, all, rest, List.map_cons]

/-- A layout that divides the lines of a source that comes to its end gives a document of them. -/
theorem exists_blocks_of_divides {source : Source} {rendering : Rendering}
    (served : source.failure? = none)
    (divides : ∀ line ∈ Line.splitLines terminator (charset.decode source.bytes),
      Rendering.Divides rendering.layout line)
    (output : Charset) (origin : Origin) :
    ∃ blocks : List (List UInt8),
      (start (.new source charset terminator) origin output rendering).chunks = blocks.map .ok := by
  obtain ⟨after, taken⟩ := Rendering.exists_afterLines
    (fun line inside => divides line (List.mem_of_mem_take inside)) 0
  exact exists_blocks_of_afterLines served taken
    (fun line inside => divides line (List.mem_of_mem_drop inside)) output origin

/-- A layout that divides every line gives a document of every source that comes to its end. -/
theorem exists_blocks (source : Source) (rendering : Rendering) (served : source.failure? = none)
    (total : Rendering.Total rendering.layout) (charset output : Charset)
    (terminator : Line.Terminator) (origin : Origin) :
    ∃ blocks : List (List UInt8),
      (start (.new source charset terminator) origin output rendering).chunks = blocks.map .ok :=
  exists_blocks_of_divides served (fun line _ => total.divides line) output origin

end Assembly

end FlatFile
