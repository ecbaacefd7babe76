/-
  FlatFile/Proofs/Column/Offset.lean
  ==================================
  **Byte offsets never fall between characters.**

  An offset that cutting arrives at is the length of the text before it
  (`Columns.Marks`), so a slice up to the next one is made of whole characters.  Cutting
  at offsets keeps this, column by column, and finds the columns that counting characters
  finds (`Columns.exists_cutAt?`): a line is cut alike in both ways, and no slice is ever
  refused (`ColumnLayout.columnsAt?_eq`).
-/
import FlatFile.Column.Offset
import FlatFile.Proofs.Column.Restore

namespace FlatFile

/-! ### Offsets of characters -/

namespace Text

@[simp] theorem byteLength_nil : byteLength [] = 0 := rfl

@[simp] theorem byteLength_cons (c : Char) (text : List Char) :
    byteLength (c :: text) = c.utf8Size + byteLength text := rfl

@[simp] theorem byteLength_append (front rest : List Char) :
    byteLength (front ++ rest) = byteLength front + byteLength rest := by
  induction front with
  | nil => simp
  | cons c front ih =>
    simp only [List.cons_append, byteLength_cons, ih]
    omega

/-- An offset after some character is no other offset than that in the text behind it. -/
theorem exists_offset_succ (c : Char) (text : List Char) :
    ∃ offset, byteLength (c :: text) = offset + 1 ∧ c.utf8Size ≤ offset + 1
      ∧ offset + 1 - c.utf8Size = byteLength text := by
  have positive := c.utf8Size_pos
  refine ⟨c.utf8Size + byteLength text - 1, ?_, ?_, ?_⟩
  · simp only [byteLength_cons]
    omega
  · omega
  · omega

theorem fromOffset?_byteLength (front rest : List Char) :
    fromOffset? (byteLength front) (front ++ rest) = some rest := by
  induction front with
  | nil => simp [fromOffset?]
  | cons c front ih =>
    obtain ⟨offset, behind, whole, left⟩ := exists_offset_succ c front
    rw [behind, List.cons_append, fromOffset?, if_pos whole, left]
    exact ih

theorem upToOffset?_byteLength (front rest : List Char) :
    upToOffset? (byteLength front) (front ++ rest) = some front := by
  induction front with
  | nil => simp [upToOffset?]
  | cons c front ih =>
    obtain ⟨offset, behind, whole, left⟩ := exists_offset_succ c front
    rw [behind, List.cons_append, upToOffset?, if_pos whole, left, ih]
    rfl

/-- **A slice between the ends of two pieces is the second piece.** -/
theorem slice?_byteLength (front piece rest : List Char) :
    slice? (front ++ piece ++ rest) (byteLength front) (byteLength (front ++ piece)) =
      some piece := by
  have between : byteLength (front ++ piece) - byteLength front = byteLength piece := by
    simp
  rw [slice?, if_pos (by simp), between, List.append_assoc, fromOffset?_byteLength]
  exact upToOffset?_byteLength piece rest

theorem offsetOf?_eq (text : List Char) (index : Nat) :
    offsetOf? text index =
      if index < text.length then some (byteLength (text.take index)) else none := by
  induction text generalizing index with
  | nil => simp [offsetOf?]
  | cons c text ih =>
    cases index with
    | zero => simp [offsetOf?]
    | succ index =>
      rw [offsetOf?, ih]
      by_cases inside : index < text.length
      · simp [inside]
      · simp [inside]

/-- **Counting on from an offset** arrives at the end of the characters counted. -/
theorem offsetAfter?_byteLength (front rest : List Char) (count : Nat) :
    offsetAfter? (front ++ rest) (byteLength front) count =
      some (if count ≤ rest.length then some (byteLength (front ++ rest.take count))
        else none) := by
  unfold offsetAfter?
  by_cases nothing : count = 0
  · simp [nothing]
  · rw [if_neg nothing, fromOffset?_byteLength, Option.map_some, offsetOf?_eq]
    -- The end of the text is the one offset at which no character begins.
    rcases Nat.lt_trichotomy count rest.length with inside | same | short
    · simp [inside, Nat.le_of_lt inside]
    · simp [same]
    · simp [Nat.not_lt_of_gt short, Nat.not_le_of_gt short, Nat.ne_of_lt short]

end Text

/-! ### Columns at offsets -/

namespace Columns

/-- **An offset and the text not cut yet**: the offset is where this text begins, and there is
    neither when the line has run out. -/
inductive Marks (line : List Char) : Option Nat → Option (List Char) → Prop where
  | out : Marks line none none
  | at {front rest : List Char} (whole : line = front ++ rest) :
      Marks line (some (Text.byteLength front)) (some rest)

theorem marks_start (line : List Char) : Marks line (some 0) (some line) :=
  @Marks.at line [] line rfl

/-- **Cutting at offsets** meets no fault, and gives the columns that are cut by counting. -/
theorem exists_cutAt? {line : List Char} (widths : List (Option Nat)) {position : Option Nat}
    {text : Option (List Char)} (marks : Marks line position text) :
    ∃ stop, cutAt? line position widths = some ((cut text widths).1, stop)
      ∧ Marks line stop (cut text widths).2 := by
  -- Each column moves both cursors on, so the induction is on the widths and over all of them.
  induction widths generalizing position text with
  | nil =>
    cases marks with
    | out => exact ⟨none, rfl, .out⟩
    | «at» whole => exact ⟨_, rfl, .at whole⟩
  | cons width widths ih =>
    cases marks with
    | out =>
      obtain ⟨stop, columns, after⟩ := ih .out
      refine ⟨stop, ?_, after⟩
      simp only [cutAt?, cut, columns]
      rfl
    | @«at» front rest whole =>
      cases width with
      | none =>
        obtain ⟨stop, columns, after⟩ := ih (.at whole)
        refine ⟨stop, ?_, after⟩
        simp only [cutAt?, cut, columns]
        rfl
      | some width =>
        have next := Text.offsetAfter?_byteLength front rest width
        rw [← whole] at next
        by_cases fits : width ≤ rest.length
        · have split : line = front ++ rest.take width ++ rest.drop width := by
            rw [List.append_assoc, List.take_append_drop]
            exact whole
          have piece := Text.slice?_byteLength front (rest.take width) (rest.drop width)
          rw [← split] at piece
          obtain ⟨stop, columns, after⟩ := ih (.at split)
          refine ⟨stop, ?_, ?_⟩
          · simp only [cutAt?, cut, next, if_pos fits, piece, columns, Option.bind_eq_bind,
              Option.bind_some]
            rfl
          · simpa only [cut, if_pos fits] using after
        · obtain ⟨stop, columns, after⟩ := ih .out
          refine ⟨stop, ?_, ?_⟩
          · simp only [cutAt?, cut, next, if_neg fits, columns, Option.bind_eq_bind,
              Option.bind_some]
            rfl
          · simpa only [cut, if_neg fits] using after

end Columns

/-! ### Layouts -/

theorem BranchingLayout.columnsAt?_eq (layout : BranchingLayout) (line : List Char) :
    layout.columnsAt? line = some (layout.columns line) := by
  obtain ⟨stop, leading, after⟩ := Columns.exists_cutAt? layout.leading (Columns.marks_start line)
  unfold columnsAt? columns
  simp only [leading, Option.bind_eq_bind, Option.bind_some]
  generalize Columns.cut (some line) layout.leading = divided at after ⊢
  rcases divided with ⟨columns, rest⟩
  dsimp only at after ⊢
  rcases columns[layout.discriminatorIndex.toNat]? with _ | _ | value
  · rfl
  · rfl
  · dsimp only
    cases layout.trailing? value with
    | none => rfl
    | some widths =>
      cases after with
      | out =>
        simp only [Columns.cut_none]
        rfl
      | «at» whole =>
        obtain ⟨last, trailing, -⟩ := Columns.exists_cutAt? widths (.at whole)
        simp only [trailing, Option.bind_some]
        rfl

/-- **Cutting at byte offsets is cutting by characters**, and no slice of a line falls off a
    character or past the end. -/
theorem ColumnLayout.columnsAt?_eq (layout : ColumnLayout) (line : List Char) :
    layout.columnsAt? line = some (layout.columns line) := by
  unfold columnsAt?
  by_cases nothing : line.isEmpty
  · simp only [columns, if_pos nothing]
  · rw [if_neg nothing]
    cases layout with
    | fixed widths =>
      obtain ⟨stop, divided, -⟩ :=
        Columns.exists_cutAt? (widths.map some) (Columns.marks_start line)
      simp [columns, nothing, divided]
    | delimited separator => rfl
    | «variable» layout =>
      simp only [columns, if_neg nothing, layout.columnsAt?_eq]
      rfl
    | custom splitter => rfl

end FlatFile
