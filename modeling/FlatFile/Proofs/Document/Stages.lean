/-
  FlatFile/Proofs/Document/Stages.lean
  ====================================
  **The shape of every document, finished or cut short.**

  The parts of a document are its prologue, a comment for each header line, and an element
  for each further line, counted from 1 (`parts`).  The chunks of a document show the
  parts of the lines up to some point, and there is one more: the footer after all lines,
  or the failure of the source or of the layout right behind these lines
  (`chunks_shape`).  What the stages and the counters say of this on the way is an
  invariant of the calls (`Counts`).
-/
import FlatFile.Charset.AsciiOnly
import FlatFile.Proofs.Document.Meaning
import FlatFile.Proofs.Document.Steps
import Mathlib.Data.List.Forall2

namespace FlatFile

/-! ### Parts -/

/-- A part of a document before its footer, by the line that it is for. -/
inductive DocumentPart where
  | prologue
  | comment (line : List Char)
  | element (number : Nat) (line : List Char)
deriving DecidableEq, Repr

/-- The elements of further lines, of which `before` have been written. -/
def bodyParts (before : Nat) (lines : List (List Char)) : List DocumentPart :=
  (lines.zipIdx (before + 1)).map fun (line, number) => .element number line

/-- **The parts of some lines**, the first ones of which are header lines. -/
def parts (headerLines : Nat) (lines : List (List Char)) : List DocumentPart :=
  .prologue :: ((lines.take headerLines).map .comment ++ bodyParts 0 (lines.drop headerLines))

theorem bodyParts_append (before : Nat) (lines more : List (List Char)) :
    bodyParts before (lines ++ more) =
      bodyParts before lines ++ bodyParts (before + lines.length) more := by
  rw [bodyParts, List.zipIdx_append, List.map_append, ← bodyParts, bodyParts, bodyParts,
    Nat.add_right_comm]

theorem parts_prefix (headerLines : Nat) (lines more : List (List Char)) :
    parts headerLines lines <+: parts headerLines (lines ++ more) := by
  unfold parts
  rw [List.prefix_cons_inj, List.take_append, List.drop_append, List.map_append]
  by_cases within : lines.length ≤ headerLines
  · rw [List.drop_eq_nil_of_le within, List.append_assoc]
    exact (List.prefix_append_right_inj _).mpr List.nil_prefix
  · have past : headerLines - lines.length = 0 := by omega
    rw [past, List.take_zero, List.map_nil, List.append_nil, List.drop_zero, bodyParts_append,
      ← List.append_assoc]
    exact List.prefix_append _ _

/-- The lines among what a reader hands out. -/
def linesAmong (items : Items) : List (List Char) := items.filterMap Except.toOption

theorem linesAmong_append (items more : Items) :
    linesAmong (items ++ more) = linesAmong items ++ linesAmong more :=
  List.filterMap_append

theorem linesAmong_map_ok (lines : List (List Char)) : linesAmong (lines.map .ok) = lines := by
  rw [linesAmong, List.filterMap_map]
  exact List.filterMap_some

namespace Rendering

variable [MultibyteCodecs]

/-- A block of a document is the text of a part. -/
def Shows (rendering : Rendering) (origin : Origin) (charset : Charset) :
    DocumentPart → List UInt8 → Prop
  | .prologue, block => block = charset.encode (rendering.prologue origin charset)
  | .comment line, block => block = charset.encode (headerComment line)
  | .element number line, block =>
    ∃ element, rendering.line number line = .ok element ∧ block = charset.encode element

/-- **The last chunk of a document**, by what follows the lines that it holds: nothing, a failure of
    the source, or a line that the layout cannot divide. -/
inductive Ends (rendering : Rendering) (charset : Charset) :
    Items → List (List Char) → Chunk → Prop where
  | whole (lines : List (List Char)) :
      Ends rendering charset (lines.map .ok) lines (.ok (charset.encode rendering.footer))
  | unread (lines : List (List Char)) (failure : IoFailure) (more : Items) :
      Ends rendering charset (lines.map .ok ++ .error failure :: more) lines (.error (.io failure))
  | undivided {layout : ColumnLayout} {failure : Failure} (lines : List (List Char))
      (line : List Char) (more : Items) (chosen : rendering.layout = some layout)
      (failed : layout.columns line = .error failure) :
      Ends rendering charset (lines.map .ok ++ .ok line :: more) lines (.error failure)

variable {rendering : Rendering} {charset : Charset} {items : Items} {lines : List (List Char)}
  {last : Chunk}

theorem Ends.cons (ends : Ends rendering charset items lines last) (line : List Char) :
    Ends rendering charset (.ok line :: items) (line :: lines) last := by
  cases ends with
  | whole => exact .whole (line :: lines)
  | unread _ failure more => exact .unread (line :: lines) failure more
  | undivided _ other more chosen failed => exact .undivided (line :: lines) other more chosen failed

theorem Ends.parts_prefix (ends : Ends rendering charset items lines last) (headerLines : Nat) :
    parts headerLines lines <+: parts headerLines (linesAmong items) := by
  cases ends with
  | whole =>
    have all := linesAmong_map_ok lines
    exact all.symm ▸ List.prefix_rfl
  | unread =>
    rw [linesAmong_append, linesAmong_map_ok]
    exact FlatFile.parts_prefix headerLines lines _
  | undivided =>
    rw [linesAmong_append, linesAmong_map_ok]
    exact FlatFile.parts_prefix headerLines lines _

/-- The names of the columns have no part in how a document ends. -/
theorem Ends.of_named {header : List (List Char)}
    (ends : Ends (rendering.named header) charset items lines last) :
    Ends rendering charset items lines last := by
  cases ends with
  | whole => exact .whole lines
  | unread _ failure more => exact .unread lines failure more
  | undivided _ line more chosen failed => exact .undivided lines line more chosen failed

omit [MultibyteCodecs] in
theorem error_of_line {number : Nat} {line : List Char} {failure : Failure}
    (failed : rendering.line number line = .error failure) :
    ∃ layout, rendering.layout = some layout ∧ layout.columns line = .error failure := by
  unfold Rendering.line at failed
  cases chosen : rendering.layout with
  | none =>
    rw [chosen] at failed
    cases failed
  | some layout =>
    refine ⟨layout, rfl, ?_⟩
    cases divided : layout.columns line with
    | error failure' =>
      simp only [chosen, divided] at failed
      cases failed
      rfl
    | ok columns =>
      simp only [chosen, divided] at failed
      cases failed

omit [MultibyteCodecs] in
theorem error_of_afterHeader {number : Nat} {line : List Char} {failure : Failure}
    (failed : rendering.afterHeader number line = .error failure) :
    ∃ layout, rendering.layout = some layout ∧ layout.columns line = .error failure := by
  unfold afterHeader namesFrom at failed
  split at failed
  · cases chosen : rendering.layout with
    | none =>
      rw [chosen] at failed
      cases failed
    | some layout =>
      refine ⟨layout, rfl, ?_⟩
      cases divided : layout.columns line with
      | error failure' =>
        simp only [chosen, divided] at failed
        cases failed
        rfl
      | ok columns =>
        simp only [chosen, divided] at failed
        cases failed
  · cases failed

/-! ### Chunks -/

theorem bodyChunks_shape (rendering : Rendering) (origin : Origin) (charset : Charset)
    (before : Nat) (items : Items) :
    ∃ (lines : List (List Char)) (blocks : List (List UInt8)) (last : Chunk),
      rendering.bodyChunks charset before items = blocks.map .ok ++ [last]
      ∧ List.Forall₂ (rendering.Shows origin charset) (bodyParts before lines) blocks
      ∧ Ends rendering charset items lines last := by
  induction items generalizing before with
  | nil => exact ⟨[], [], _, rfl, .nil, .whole []⟩
  | cons item items ih =>
    cases item with
    | error failure => exact ⟨[], [], _, rfl, .nil, .unread [] failure items⟩
    | ok line =>
      rw [bodyChunks]
      cases written : rendering.line (before + 1) line with
      | error failure =>
        obtain ⟨layout, chosen, failed⟩ := error_of_line written
        exact ⟨[], [], _, rfl, .nil, .undivided [] line items chosen failed⟩
      | ok element =>
        obtain ⟨lines, blocks, last, chunks, shown, ends⟩ := ih (before + 1)
        refine ⟨line :: lines, charset.encode element :: blocks, last, ?_, ?_, ends.cons line⟩
        · rw [chunks, List.map_cons, List.cons_append]
        · exact .cons ⟨element, written, rfl⟩ shown

theorem headerChunks_shape (rendering : Rendering) (origin : Origin) (charset : Charset)
    (before : Nat) (items : Items) :
    ∃ (lines : List (List Char)) (after : Rendering) (blocks : List (List UInt8)) (last : Chunk),
      rendering.afterLines before (lines.take (rendering.style.headerLines - before)) = .ok after
      ∧ rendering.headerChunks charset before items = blocks.map .ok ++ [last]
      ∧ List.Forall₂ (after.Shows origin charset)
          ((lines.take (rendering.style.headerLines - before)).map .comment
            ++ bodyParts 0 (lines.drop (rendering.style.headerLines - before))) blocks
      ∧ Ends after charset items lines last := by
  induction items generalizing rendering before with
  | nil =>
    exact ⟨[], rendering, [], _, by rw [List.take_nil]; rfl, rfl,
      by rw [List.take_nil, List.drop_nil]; exact .nil, .whole []⟩
  | cons item items ih =>
    by_cases past : rendering.style.headerLines ≤ before
    · obtain ⟨lines, blocks, last, chunks, shown, ends⟩ :=
        bodyChunks_shape rendering origin charset 0 (item :: items)
      rw [Nat.sub_eq_zero_of_le past, headerChunks_past charset past]
      exact ⟨lines, rendering, blocks, last, rfl, chunks, shown, ends⟩
    · cases item with
      | error failure =>
        rw [headerChunks, if_neg past]
        exact ⟨[], rendering, [], _, by rw [List.take_nil]; rfl, rfl,
          by rw [List.take_nil, List.drop_nil]; exact .nil, .unread [] failure items⟩
      | ok line =>
        rw [headerChunks, if_neg past]
        cases named : rendering.afterHeader (before + 1) line with
        | error failure =>
          obtain ⟨layout, chosen, failed⟩ := error_of_afterHeader named
          exact ⟨[], rendering, [], _, by rw [List.take_nil]; rfl, rfl,
            by rw [List.take_nil, List.drop_nil]; exact .nil,
            .undivided [] line items chosen failed⟩
        | ok next =>
          obtain ⟨lines, after, blocks, last, taken, chunks, shown, ends⟩ := ih next (before + 1)
          rw [(afterHeader_style named).1] at taken shown
          have count : rendering.style.headerLines - before =
              rendering.style.headerLines - (before + 1) + 1 := by omega
          rw [count]
          refine ⟨line :: lines, after, charset.encode (headerComment line) :: blocks, last, ?_, ?_,
            .cons rfl shown, ends.cons line⟩
          · rw [List.take_succ_cons, afterLines, named]
            exact taken
          · rw [List.map_cons, List.cons_append, ← chunks]

end Rendering

namespace Assembly

section

variable [MultibyteCodecs]

/-- **The chunks of a document**: the parts of its first lines, and what ends it behind these. -/
theorem chunks_shape (reader : LineReader) (origin : Origin) (charset : Charset)
    (rendering : Rendering) :
    ∃ (lines : List (List Char)) (blocks : List (List UInt8)) (last : Chunk),
      (start reader origin charset rendering).chunks = blocks.map .ok ++ [last]
      ∧ List.Forall₂ ((rendering.named (lines.take rendering.style.headerLines)).Shows origin charset)
          (parts rendering.style.headerLines lines) blocks
      ∧ Rendering.Ends rendering charset reader.drain.1 lines last := by
  obtain ⟨lines, after, blocks, last, taken, chunks, shown, ends⟩ :=
    rendering.headerChunks_shape origin charset 0 reader.drain.1
  rw [Nat.sub_zero] at taken shown
  have named := Rendering.afterLines_eq_named taken
  subst named
  refine ⟨lines, charset.encode (rendering.prologue origin charset) :: blocks, last, ?_,
    .cons rfl shown, ?_⟩
  · rw [chunks_start, chunks, List.map_cons, List.cons_append]
  · exact ends.of_named

/-! ### Stages and counters -/

theorem Step.remaining_le {assembly after : Assembly} {given : Option Chunk}
    (step : Step assembly given after) : after.stage.remaining ≤ assembly.stage.remaining := by
  cases step with
  | prologue stage => simp [stage, Stage.remaining]
  | comment stage => exact Nat.le_refl _
  | element past =>
    rcases past with stage | ⟨stage, -⟩
    · simp [stage]
    · simp [stage, Stage.remaining]
  | done stage => exact Nat.le_refl _
  | unnamed => exact Nat.zero_le _
  | undivided => exact Nat.zero_le _
  | unread => exact Nat.zero_le _
  | last => exact Nat.zero_le _
  | footer => exact Nat.zero_le _

/-- **What the counters say** of the items that the reader has handed out so far. -/
structure Counts (items : Items) (headerLines : Nat) (assembly : Assembly) (pulled : Items) :
    Prop where
  style : assembly.rendering.style.headerLines = headerLines
  split : items = pulled ++ assembly.reader.drain.1
  header : assembly.stage = .initial ∨ assembly.stage = .header →
    assembly.headerLines = (linesAmong pulled).length ∧ (linesAmong pulled).length ≤ headerLines
  body : assembly.stage = .body → headerLines ≤ (linesAmong pulled).length
  lines : assembly.bodyLines = (linesAmong pulled).length - headerLines

omit [MultibyteCodecs] in
theorem length_linesAmong_line (pulled : Items) (line : List Char) :
    (linesAmong (pulled ++ [.ok line])).length = (linesAmong pulled).length + 1 := by
  rw [linesAmong_append, List.length_append]
  rfl

omit [MultibyteCodecs] in
theorem linesAmong_failure (pulled : Items) (failure : IoFailure) :
    linesAmong (pulled ++ [.error failure]) = linesAmong pulled := by
  rw [linesAmong_append]
  exact List.append_nil _

theorem Counts.split_next {items pulled : Items} {headerLines : Nat} {assembly : Assembly}
    (counts : Counts items headerLines assembly pulled)
    {item : Except IoFailure (List Char)} {reader : LineReader}
    (next : assembly.reader.next = (some item, reader)) :
    items = (pulled ++ [item]) ++ reader.drain.1 := by
  rw [counts.split, LineReader.drain_of_next_some next, List.append_assoc]
  rfl

theorem Counts.past_le {items pulled : Items} {headerLines : Nat} {assembly : Assembly}
    (counts : Counts items headerLines assembly pulled) (past : assembly.PastHeader) :
    headerLines ≤ (linesAmong pulled).length := by
  rcases past with stage | ⟨stage, past⟩
  · exact counts.body stage
  · have header := (counts.header (.inr stage)).1
    rw [counts.style] at past
    omega

/-- **Every call keeps the counters right.** -/
theorem Step.counts {items : Items} {headerLines : Nat} {assembly after : Assembly}
    {given : Option Chunk} (step : Step assembly given after)
    (counts : ∃ pulled, Counts items headerLines assembly pulled) :
    ∃ pulled, Counts items headerLines after pulled := by
  rcases counts with ⟨pulled, counts⟩
  have lines := counts.lines
  cases step with
  | prologue stage =>
    exact ⟨pulled, counts.style, counts.split, fun _ => counts.header (.inl stage), nofun, lines⟩
  | @comment line reader rendering stage within next named =>
    obtain ⟨header, -⟩ := counts.header (.inr stage)
    rw [counts.style] at within
    have more := length_linesAmong_line pulled line
    refine ⟨pulled ++ [.ok line], ?_, counts.split_next next, fun _ => ?_, fun body => ?_, ?_⟩
    · rw [← counts.style, ← (Rendering.afterHeader_style named).1]
    · change assembly.headerLines + 1 = _ ∧ _
      omega
    · exact absurd (stage.symm.trans body) nofun
    · change assembly.bodyLines = _
      omega
  | @unnamed line reader failure stage within next failed =>
    obtain ⟨header, -⟩ := counts.header (.inr stage)
    rw [counts.style] at within
    have more := length_linesAmong_line pulled line
    refine ⟨pulled ++ [.ok line], counts.style, counts.split_next next, nofun, nofun, ?_⟩
    change assembly.bodyLines = _
    omega
  | @element line element reader past next written =>
    have past := counts.past_le past
    have more := length_linesAmong_line pulled line
    refine ⟨pulled ++ [.ok line], counts.style, counts.split_next next, nofun, fun _ => ?_, ?_⟩
    · omega
    · change assembly.bodyLines + 1 = _
      omega
  | @undivided line reader failure past next failed =>
    have past := counts.past_le past
    have more := length_linesAmong_line pulled line
    refine ⟨pulled ++ [.ok line], counts.style, counts.split_next next, nofun, nofun, ?_⟩
    change assembly.bodyLines + 1 = _
    omega
  | @unread reader failure stage next =>
    refine ⟨pulled ++ [.error failure], counts.style, counts.split_next next, nofun, nofun, ?_⟩
    rw [linesAmong_failure]
    exact lines
  | last stage ended ended' =>
    refine ⟨pulled, counts.style, ?_, nofun, nofun, lines⟩
    rw [counts.split, ended]
    exact congrArg (pulled ++ ·) ended'.symm
  | footer stage => exact ⟨pulled, counts.style, counts.split, nofun, nofun, lines⟩
  | done stage => exact ⟨pulled, counts⟩

theorem counts_start (reader : LineReader) (origin : Origin) (charset : Charset)
    (rendering : Rendering) :
    Counts reader.drain.1 rendering.style.headerLines (start reader origin charset rendering) [] where
  style := rfl
  split := rfl
  header _ := ⟨rfl, Nat.zero_le _⟩
  body := nofun
  lines := (Nat.zero_sub _).symm

/-! ### Runs -/

/-- **A document comes in order**, whatever its reader does and however often it is asked. -/
structure Orderly (assembly : Assembly) : Prop where
  /-- No call takes the document back to an earlier stage. -/
  forwards : ∀ calls more,
    (assembly.afterCalls (calls + more)).stage.remaining ≤ (assembly.afterCalls calls).stage.remaining
  /-- The chunks show the parts of the first lines, and the one after them ends the document. -/
  shape : ∃ (lines : List (List Char)) (blocks : List (List UInt8)) (last : Chunk),
    assembly.chunks = blocks.map .ok ++ [last]
    ∧ List.Forall₂
        ((assembly.rendering.named (lines.take assembly.rendering.style.headerLines)).Shows
          assembly.origin assembly.charset)
        (parts assembly.rendering.style.headerLines lines) blocks
    ∧ Rendering.Ends assembly.rendering assembly.charset assembly.reader.drain.1 lines last
    ∧ parts assembly.rendering.style.headerLines lines
        <+: parts assembly.rendering.style.headerLines (linesAmong assembly.reader.drain.1)
  handed : ∀ calls, assembly.handed calls = (assembly.chunks.take calls).map some
    ++ List.replicate (calls - assembly.chunks.length) none
  /-- After the last chunk nothing happens any more, not even to the reader. -/
  ended : ∀ calls, assembly.chunks.length ≤ calls →
    (assembly.afterCalls calls).stage = .done
      ∧ (assembly.afterCalls calls).next = (none, assembly.afterCalls calls)
  /-- The number of lines is that of those pulled after the header lines. -/
  numbered : ∀ calls, ∃ pulled,
    assembly.reader.drain.1 = pulled ++ (assembly.afterCalls calls).reader.drain.1
      ∧ (assembly.afterCalls calls).bodyLines =
        (linesAmong pulled).length - assembly.rendering.style.headerLines

/-- **Every document comes in order.** -/
theorem orderly_of_new? {reader : LineReader} {origin : Origin} {style : DocumentStyle}
    {layout : Option ColumnLayout} {converters : ColumnConverters} {assembly : Assembly}
    (made : new? reader origin style layout converters = .ok assembly) : assembly.Orderly := by
  rw [new?_eq] at made
  cases checked : checks style layout converters with
  | error failure =>
    rw [checked] at made
    cases made
  | ok charset =>
    rw [checked] at made
    cases made
    constructor
    · intro calls more
      rw [afterCalls_add]
      refine @afterCalls_induction _ _
        (fun after => after.stage.remaining ≤ (afterCalls _ calls).stage.remaining) ?_ ?_ more
      · intro before given after step le
        exact Nat.le_trans step.remaining_le le
      · exact Nat.le_refl _
    · obtain ⟨lines, blocks, last, chunks, shown, ends⟩ :=
        chunks_shape reader origin charset (initialRendering style layout converters)
      exact ⟨lines, blocks, last, chunks, shown, ends, ends.parts_prefix _⟩
    · exact handed_eq _
    · intro calls all
      have stage := stage_afterCalls _ all
      exact ⟨stage, next_of_done stage⟩
    · intro calls
      obtain ⟨pulled, counts⟩ := afterCalls_induction (fun _ _ _ step => step.counts)
        ⟨[], counts_start reader origin charset (initialRendering style layout converters)⟩ calls
      exact ⟨pulled, counts.split, counts.lines⟩

end

/-- Columns after a first one of two characters. -/
def wideLayout : ColumnLayout := .variable ⟨0, [2], .empty⟩

/-- A header line, a line, one that is too short for its discriminator, and one never reached. -/
theorem orderly_of_new?_short :
    ∃ assembly, new? (.new [.data (Charset.utf8.encode "h\nabc\nx\nno".toList)] .utf8 none)
        ⟨"f", "f"⟩ { headerLines := 1, declaration := false } (some wideLayout) ⟨[], false, true⟩ =
          .ok assembly
      ∧ assembly.Orderly
      ∧ (assembly.handed 6).map (Option.map Except.toOption) =
        [some (some (Charset.utf8.encode "<DocElement name=\"f\" location=\"f\">\n".toList)),
          some (some (Charset.utf8.encode "  <!-- h -->\n".toList)),
          some (some (Charset.utf8.encode
            "  <Line number=\"1\">\n    <Col number=\"1\">ab</Col>\n  </Line>\n".toList)),
          some none, none, none]
      ∧ (assembly.afterCalls 6).stage = .done ∧ (assembly.afterCalls 6).bodyLines = 2 := by
  have made : new? (.new [.data (Charset.utf8.encode "h\nabc\nx\nno".toList)] .utf8 none)
      ⟨"f", "f"⟩ { headerLines := 1, declaration := false } (some wideLayout) ⟨[], false, true⟩ =
        .ok _ := rfl
  refine ⟨_, made, orderly_of_new? made, ?_, ?_, ?_⟩
  · decide +kernel
  · decide +kernel
  · decide +kernel

end Assembly

end FlatFile
