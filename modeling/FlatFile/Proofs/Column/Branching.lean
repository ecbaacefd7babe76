/-
  FlatFile/Proofs/Column/Branching.lean
  =====================================
  **What a variable layout makes of a line, told from positions in the line alone.**

  The discriminator of a line stands between two sums of the widths of the first columns,
  and it selects the widths of all columns (`widthsOf`).  A line that can be divided is
  cut by these widths and by no others (`columns_eq`).  An absent column has no part in
  the positions: a column that is set is the piece of the line after the widths of the
  present columns before it (`Columns.eq_of_cut_getElem?`).
-/
import FlatFile.Proofs.Column.Restore

namespace FlatFile

/-! ### Cutting on -/

theorem Columns.cut_append (text : Option (List Char)) (widths more : List (Option Nat)) :
    cut text (widths ++ more) =
      ((cut text widths).1 ++ (cut (cut text widths).2 more).1, (cut (cut text widths).2 more).2) := by
  induction widths generalizing text with
  | nil => rfl
  | cons width widths ih =>
    rw [List.cons_append]
    cases text with
    | none =>
      simp only [cut, ih, List.cons_append]
    | some text =>
      cases width with
      | none => simp only [cut, ih, List.cons_append]
      | some width =>
        rw [cut, cut]
        split
        · simp only [ih, List.cons_append]
        · simp only [ih, List.cons_append]

/-- **A column that is set** stands behind the present columns before it, whatever absent ones there
    are among them. -/
theorem Columns.eq_of_cut_getElem? {widths : List (Option Nat)} {text value : List Char}
    {index : Nat} (set : (cut (some text) widths).1[index]? = some (some value)) :
    ∃ width, widths[index]? = some (some width)
      ∧ value = (text.drop (widths.take index).reduceOption.sum).take width := by
  induction widths generalizing text index with
  | nil => cases set
  | cons width widths ih =>
    cases width with
    | none =>
      cases index with
      | zero => cases set
      | succ index =>
        obtain ⟨width, inside, same⟩ := ih set
        refine ⟨width, inside, ?_⟩
        rwa [List.take_succ_cons, List.reduceOption_cons_of_none]
    | some width =>
      rw [cut] at set
      split at set
      · cases index with
        | zero =>
          cases set
          exact ⟨width, rfl, rfl⟩
        | succ index =>
          obtain ⟨width', inside, same⟩ := ih set
          refine ⟨width', inside, ?_⟩
          rwa [List.take_succ_cons, List.reduceOption_cons_of_some, List.sum_cons,
            ← List.drop_drop]
      · -- The text has run out, so nothing behind is set.
        simp only [cut_none] at set
        cases index with
        | zero => cases set
        | succ index =>
          have unset := List.eq_of_mem_replicate (List.mem_of_getElem? set)
          cases unset

theorem Columns.eq_none_of_absent {widths : List (Option Nat)} {text : List Char} {index : Nat}
    (absent : widths[index]? = some none) : (cut (some text) widths).1[index]? = some none := by
  have inside : index < (cut (some text) widths).1.length := by
    rw [length_cut]
    exact (List.getElem?_eq_some_iff.mp absent).1
  rw [List.getElem?_eq_getElem inside]
  cases set : (cut (some text) widths).1[index] with
  | none => rfl
  | some value =>
    obtain ⟨width, present, -⟩ := eq_of_cut_getElem?
      ((List.getElem?_eq_getElem inside).trans (congrArg some set))
    rw [absent] at present
    cases present

namespace BranchingLayout

variable {layout : BranchingLayout}

/-! ### Discriminators -/

/-- The widths registered for a value are found for it, with any blanks around it. -/
theorem widthsAfter?_eq_some_iff {value : List Char} {widths : List Int32} :
    layout.widthsAfter? value = some widths ↔
      Text.trim value ≠ [] ∧ (String.ofList (Text.trim value), widths) ∈ layout.suffixes.entries := by
  unfold widthsAfter? SuffixTable.find?
  by_cases blank : Text.trim value = []
  · simp [blank]
  · simp only [List.isEmpty_iff, blank, if_false, Option.map_eq_some_iff, ne_eq, not_false_eq_true,
      true_and]
    constructor
    · rintro ⟨entry, found, rfl⟩
      have key : entry.1 = String.ofList (Text.trim value) := by
        simpa using List.find?_some found
      rw [← key]
      exact List.mem_of_find?_eq_some found
    · intro inside
      refine ⟨(String.ofList (Text.trim value), widths), ?_, rfl⟩
      have distinct := layout.suffixes.distinct
      rw [List.Nodup, List.pairwise_map] at distinct
      rw [List.find?_eq_some_iff_append]
      refine ⟨by simp, ?_⟩
      obtain ⟨before, after, split⟩ := List.append_of_mem inside
      refine ⟨before, after, split, ?_⟩
      intro entry member
      rw [split, List.pairwise_append] at distinct
      have other := distinct.2.2 entry member _ List.mem_cons_self
      simpa using other

/-- The discriminator of a line: what stands in its column. -/
def discriminatorOf (layout : BranchingLayout) (line : List Char) : List Char :=
  let widths := layout.prefixWidths.map UInt64.toNat
  (line.drop (widths.take layout.discriminatorIndex.toNat).sum).take
    (widths.getD layout.discriminatorIndex.toNat 0)

/-- The widths of all columns of a line, absent ones among them. -/
def widthsOf (layout : BranchingLayout) (line : List Char) : List (Option Nat) :=
  layout.leading ++ (layout.trailing? (layout.discriminatorOf line)).getD []

/-- The widths of the columns that a line can have: those of the first columns and then, if they
    are registered for its discriminator, those of further columns that are not negative. -/
def presentWidths (layout : BranchingLayout) (line : List Char) : List Nat :=
  layout.prefixWidths.map UInt64.toNat
    ++ ((layout.widthsAfter? (layout.discriminatorOf line)).getD []).filterMap columnWidth?

theorem leading_eq (layout : BranchingLayout) :
    layout.leading = (layout.prefixWidths.map UInt64.toNat).map some := by
  rw [List.map_map]
  rfl

theorem reduceOption_widthsOf (layout : BranchingLayout) (line : List Char) :
    (layout.widthsOf line).reduceOption = layout.presentWidths line := by
  rw [widthsOf, presentWidths, List.reduceOption_append, leading_eq, reduceOption_map_some, trailing?]
  cases layout.widthsAfter? (layout.discriminatorOf line) with
  | none => rfl
  | some widths =>
    rw [Option.map_some, Option.getD_some, Option.getD_some, List.reduceOption, List.filterMap_map,
      Function.id_comp]

theorem trailing?_nil (layout : BranchingLayout) : layout.trailing? [] = none := rfl

theorem eq_discriminatorOf {line value : List Char}
    (set : (Columns.cut (some line) layout.leading).1[layout.discriminatorIndex.toNat]? =
      some (some value)) : value = layout.discriminatorOf line := by
  obtain ⟨width, inside, same⟩ := Columns.eq_of_cut_getElem? set
  rw [leading_eq, List.getElem?_map, Option.map_eq_some_iff] at inside
  obtain ⟨width', inside, ⟨⟩⟩ := inside
  rw [leading_eq, ← List.map_take, reduceOption_map_some] at same
  rw [same, discriminatorOf, List.getD_eq_getElem?_getD, inside, Option.getD_some]

/-- A line that can be divided reaches its discriminator. -/
theorem reached_of_columns {line : List Char} {columns : Columns}
    (divided : layout.columns line = .ok columns) :
    (Columns.cut (some line) layout.leading).1[layout.discriminatorIndex.toNat]? =
      some (some (layout.discriminatorOf line)) := by
  unfold BranchingLayout.columns at divided
  dsimp only at divided
  split at divided
  · rename_i value set
    rw [set, eq_discriminatorOf set]
  · cases divided

theorem exists_columns {line value : List Char}
    (reached : (Columns.cut (some line) layout.leading).1[layout.discriminatorIndex.toNat]? =
      some (some value)) : ∃ columns, layout.columns line = .ok columns := by
  unfold BranchingLayout.columns
  simp only [reached]
  split
  · exact ⟨_, rfl⟩
  · exact ⟨_, rfl⟩

/-- **A line that can be divided** is cut by the widths that its discriminator selects, and the
    discriminator is one of its columns. -/
theorem columns_eq {line : List Char} {columns : Columns}
    (divided : layout.columns line = .ok columns) :
    columns = (Columns.cut (some line) (layout.widthsOf line)).1
      ∧ columns[layout.discriminatorIndex.toNat]? = some (some (layout.discriminatorOf line)) := by
  have reached := reached_of_columns divided
  have same : columns = (Columns.cut (some line) (layout.widthsOf line)).1 := by
    unfold BranchingLayout.columns at divided
    simp only [reached] at divided
    rw [widthsOf]
    split at divided
    · rename_i unregistered
      rw [unregistered, Option.getD_none, List.append_nil]
      exact (Except.ok.inj divided).symm
    · rename_i widths registered
      rw [registered, Option.getD_some, Columns.cut_append]
      exact (Except.ok.inj divided).symm
  refine ⟨same, ?_⟩
  rw [same, widthsOf, Columns.cut_append, List.getElem?_append_left]
  · exact reached
  · exact (List.getElem?_eq_some_iff.mp reached).1

end BranchingLayout

end FlatFile
