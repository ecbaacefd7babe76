/-
  FlatFile/Proofs/Column/Slots.lean
  =================================
  **Where each column of a line stands.**

  A column with a width stands behind the widths before it, and it is set just if the line
  reaches its end (`Columns.slot`).  An absent column is never set, and it takes nothing
  from the line.  That is said here of each column by its position among the widths
  (`Columns.cut_getElem?`), with no word on how the cut goes on from one column to the
  next: once a line has ended inside a column it ends before all later ones, since sums of
  widths only grow.

  Fixed columns are cut in place (`ColumnLayout.fixed_cut_in_place`).  A variable layout
  fails on the lines that end before their discriminator does, and on no others; what it
  makes of the rest is told column by column (`ColumnLayout.variable_cut_in_place`).  Both
  are stated for cutting at byte offsets, which never meets a broken character.
-/
import FlatFile.Proofs.Column.Branching
import FlatFile.Proofs.Column.Offset

namespace FlatFile

namespace Columns

/-- The piece of a line of some width behind so many characters, if the line reaches its end. -/
def slot (line : List Char) (start width : Nat) : Option (List Char) :=
  if start + width ≤ line.length then some ((line.drop start).take width) else none

theorem slot_eq_none {line : List Char} {start width : Nat} (short : line.length < start + width) :
    slot line start width = none :=
  if_neg (Nat.not_le_of_gt short)

theorem slot_drop {line : List Char} {skipped : Nat} (inside : skipped ≤ line.length)
    (start width : Nat) :
    slot (line.drop skipped) start width = slot line (skipped + start) width := by
  have ends : start + width ≤ (line.drop skipped).length
      ↔ skipped + start + width ≤ line.length := by
    rw [List.length_drop]
    omega
  simp only [slot, ends, List.drop_drop]

/-- **The columns of a line, each by its position**: a column stands behind the present widths
    before it. -/
theorem cut_getElem? (line : List Char) (widths : List (Option Nat)) (index : Nat) :
    (cut (some line) widths).1[index]? =
      widths[index]?.map fun width =>
        width.bind (slot line (widths.take index).reduceOption.sum) := by
  -- What is left of the line changes from width to width, so the induction is over all lines.
  induction widths generalizing line index with
  | nil => rfl
  | cons width widths ih =>
    cases width with
    | none =>
      simp only [cut]
      cases index with
      | zero => rfl
      | succ index =>
        simp only [List.getElem?_cons_succ, List.take_succ_cons, List.reduceOption_cons_of_none]
        exact ih line index
    | some width =>
      by_cases fits : width ≤ line.length
      · simp only [cut, if_pos fits]
        cases index with
        | zero => simp [slot, fits]
        | succ index =>
          simp only [List.getElem?_cons_succ, List.take_succ_cons,
            List.reduceOption_cons_of_some, List.sum_cons]
          rw [ih (line.drop width) index]
          simp only [funext (slot_drop fits (widths.take index).reduceOption.sum)]
      · simp only [cut, if_neg fits, cut_none]
        cases index with
        | zero => simp [slot, fits]
        | succ index =>
          simp only [List.getElem?_cons_succ, List.take_succ_cons,
            List.reduceOption_cons_of_some, List.sum_cons, List.getElem?_replicate]
          by_cases inside : index < widths.length
          · -- The line has ended before this column, whatever its own width is.
            have unset : ∀ later,
                slot line (width + (widths.take index).reduceOption.sum) later = none := by
              intro later
              apply slot_eq_none
              omega
            rw [if_pos inside, List.getElem?_eq_getElem inside, Option.map_some]
            cases widths[index] with
            | none => rfl
            | some later => exact congrArg some (unset later).symm
          · rw [if_neg inside, List.getElem?_eq_none (Nat.le_of_not_lt inside), Option.map_none]

theorem cut_map_some_getElem? (line : List Char) (widths : List Nat) (index : Nat) :
    (cut (some line) (widths.map some)).1[index]? =
      widths[index]?.map (slot line (widths.take index).sum) := by
  rw [cut_getElem?, ← List.map_take, reduceOption_map_some, List.getElem?_map, Option.map_map]
  rfl

/-- The columns that are set come first, and together they begin the line. -/
theorem exists_values_cut (line : List Char) (widths : List Nat) :
    ∃ (values : List (List Char)) (unset : Nat),
      (cut (some line) (widths.map some)).1 = values.map some ++ List.replicate unset none
        ∧ values.flatten <+: line := by
  induction widths generalizing line with
  | nil => exact ⟨[], 0, rfl, List.nil_prefix⟩
  | cons width widths ih =>
    rw [List.map_cons, cut]
    by_cases fits : width ≤ line.length
    · obtain ⟨values, unset, columns, begins⟩ := ih (line.drop width)
      refine ⟨line.take width :: values, unset, ?_, ?_⟩
      · simp only [if_pos fits, columns, List.map_cons, List.cons_append]
      · have whole := (List.prefix_append_right_inj (line.take width)).mpr begins
        rwa [List.take_append_drop] at whole
    · refine ⟨[], widths.length + 1, ?_, List.nil_prefix⟩
      simp only [if_neg fits, cut_none, List.length_map]
      rfl

end Columns

/-! ### Fixed columns -/

/-- The columns of a line that has fixed widths, one for each width. -/
structure Columns.InPlace (widths : List Nat) (line : List Char) (columns : Columns) : Prop where
  length : columns.length = widths.length
  /-- A column is what stands between two sums of widths, and set if the line is that long. -/
  slots : ∀ index, (inside : index < widths.length) →
    columns[index]? = some (slot line (widths.take index).sum widths[index])
  /-- The columns that are set come before the others, and together they begin the line. -/
  setFirst : ∃ (values : List (List Char)) (unset : Nat),
    columns = values.map some ++ List.replicate unset none ∧ values.flatten <+: line

theorem Columns.inPlace_cut (line : List Char) (widths : List Nat) :
    InPlace widths line (cut (some line) (widths.map some)).1 where
  length := by rw [length_cut, List.length_map]
  slots := by
    intro index inside
    rw [cut_map_some_getElem?, List.getElem?_eq_getElem inside]
    rfl
  setFirst := exists_values_cut line widths

/-- **Fixed columns are cut in place.**  Cutting at byte offsets meets no fault under any widths,
    zero widths among them; an empty line has no columns, and any other one has each column where
    the widths before it end. -/
theorem ColumnLayout.fixed_cut_in_place (widths : List Nat) (line : List Char) :
    (line = [] ∧ columnsAt? (.fixed widths) line = some (.ok none))
      ∨ (line ≠ [] ∧ ∃ columns, columnsAt? (.fixed widths) line = some (.ok (some columns))
        ∧ Columns.InPlace widths line columns) := by
  rw [columnsAt?_eq]
  by_cases nothing : line = []
  · refine .inl ⟨nothing, ?_⟩
    rw [nothing]
    rfl
  · refine .inr ⟨nothing, _, ?_, Columns.inPlace_cut line widths⟩
    simp [columns, nothing]

/-! ### Variable layouts -/

namespace BranchingLayout

variable {layout : BranchingLayout}

/-- How many characters a line needs so that its discriminator is whole. -/
def reach (layout : BranchingLayout) : Nat :=
  ((layout.prefixWidths.map UInt64.toNat).take (layout.discriminatorIndex.toNat + 1)).sum

/-- The table has these widths for a discriminator value, which is not blank. -/
def Registered (layout : BranchingLayout) (value : List Char) (widths : List Int32) : Prop :=
  Text.trim value ≠ [] ∧ (String.ofList (Text.trim value), widths) ∈ layout.suffixes.entries

/-- The columns of a line under a variable layout: the first ones, and then those that its
    discriminator selects. -/
structure Divides (layout : BranchingLayout) (line : List Char) (columns : Columns) : Prop where
  /-- The first columns are cut like fixed ones. -/
  leading : Columns.InPlace (layout.prefixWidths.map UInt64.toNat) line
    (columns.take layout.prefixWidths.length)
  /-- The discriminator is set, and there are further columns just if widths are registered for
      it: one for each width, where a negative width is that of an absent column and any other
      one stands behind all widths before it that are not negative. -/
  trailing : ∃ value, columns[layout.discriminatorIndex.toNat]? = some (some value)
    ∧ (((∀ widths, ¬ layout.Registered value widths)
          ∧ columns.length = layout.prefixWidths.length)
      ∨ ∃ widths, layout.Registered value widths
        ∧ columns.length = layout.prefixWidths.length + widths.length
        ∧ ∀ index, (inside : index < widths.length) →
          columns[layout.prefixWidths.length + index]? = some
            (if widths[index].toInt < 0 then none
            else Columns.slot line
              ((layout.prefixWidths.map UInt64.toNat).sum
                + ((widths.take index).filterMap columnWidth?).sum)
              widths[index].toInt.toNat))

theorem index_lt_of_check (checked : layout.check = .ok ()) :
    layout.discriminatorIndex.toNat < layout.prefixWidths.length := by
  unfold check at checked
  split at checked
  · assumption
  · cases checked

theorem length_leading (layout : BranchingLayout) :
    layout.leading.length = layout.prefixWidths.length := by
  rw [leading, List.length_map]

/-- The column of the discriminator as it is cut: what stands there if the line reaches its end. -/
theorem cut_leading_getElem? (checked : layout.check = .ok ()) (line : List Char) :
    (Columns.cut (some line) layout.leading).1[layout.discriminatorIndex.toNat]? =
      some (if layout.reach ≤ line.length then some (layout.discriminatorOf line) else none) := by
  have inside :
      layout.discriminatorIndex.toNat < (layout.prefixWidths.map UInt64.toNat).length := by
    rw [List.length_map]
    exact index_lt_of_check checked
  have reached : layout.reach =
      ((layout.prefixWidths.map UInt64.toNat).take layout.discriminatorIndex.toNat).sum
        + (layout.prefixWidths.map UInt64.toNat)[layout.discriminatorIndex.toNat] := by
    rw [reach, List.take_add_one, List.getElem?_eq_getElem inside, Option.toList_some,
      List.sum_append, List.sum_singleton]
  rw [leading_eq, Columns.cut_map_some_getElem?, List.getElem?_eq_getElem inside, Option.map_some,
    Columns.slot, ← reached, discriminatorOf, List.getD_eq_getElem?_getD,
    List.getElem?_eq_getElem inside, Option.getD_some]

theorem columns_of_short {line : List Char} (checked : layout.check = .ok ())
    (short : line.length < layout.reach) :
    layout.columns line = .error (.layout
      (.discriminatorUnreached line.length (layout.discriminatorIndex + 1).toNat)) := by
  have unset := cut_leading_getElem? checked line
  rw [if_neg (Nat.not_le_of_gt short)] at unset
  simp only [BranchingLayout.columns, unset]

/-- The further columns of a line, by their positions among the widths that are registered. -/
theorem cut_widthsOf_getElem? {line : List Char} {widths : List Int32}
    (registered : layout.widthsAfter? (layout.discriminatorOf line) = some widths) {index : Nat}
    (inside : index < widths.length) :
    (Columns.cut (some line) (layout.widthsOf line)).1[layout.prefixWidths.length + index]? = some
      (if widths[index].toInt < 0 then none
      else Columns.slot line
        ((layout.prefixWidths.map UInt64.toNat).sum
          + ((widths.take index).filterMap columnWidth?).sum)
        widths[index].toInt.toNat) := by
  have further : layout.widthsOf line = layout.leading ++ widths.map columnWidth? := by
    rw [widthsOf, trailing?, registered]
    rfl
  have before : ((layout.leading ++ widths.map columnWidth?).take
      (layout.prefixWidths.length + index)).reduceOption.sum =
        (layout.prefixWidths.map UInt64.toNat).sum
          + ((widths.take index).filterMap columnWidth?).sum := by
    rw [← length_leading, List.take_length_add_append, List.reduceOption_append, List.sum_append,
      leading_eq, reduceOption_map_some, ← List.map_take, List.reduceOption, List.filterMap_map,
      Function.id_comp]
  rw [further, Columns.cut_getElem?, before, ← length_leading,
    List.getElem?_append_right (Nat.le_add_right _ _),
    Nat.add_sub_cancel_left, List.getElem?_map, List.getElem?_eq_getElem inside, Option.map_some,
    Option.map_some, columnWidth?]
  by_cases negative : widths[index].toInt < 0
  · rw [if_pos negative, if_neg (Int.not_le.mpr negative)]
    rfl
  · rw [if_neg negative, if_pos (Int.not_lt.mp negative)]
    rfl

theorem divides_columns {line : List Char} {columns : Columns}
    (divided : layout.columns line = .ok columns) : layout.Divides line columns := by
  obtain ⟨rfl, set⟩ := columns_eq divided
  constructor
  · have taken : (Columns.cut (some line) (layout.widthsOf line)).1.take
        layout.prefixWidths.length = (Columns.cut (some line) layout.leading).1 := by
      rw [widthsOf, Columns.cut_append, ← length_leading]
      apply List.take_left'
      exact Columns.length_cut _ _
    rw [taken, leading_eq]
    exact Columns.inPlace_cut line _
  · refine ⟨layout.discriminatorOf line, set, ?_⟩
    cases selected : layout.widthsAfter? (layout.discriminatorOf line) with
    | none =>
      refine .inl ⟨?_, ?_⟩
      · intro widths registered
        rw [Registered, ← widthsAfter?_eq_some_iff, selected] at registered
        cases registered
      · rw [Columns.length_cut, widthsOf, trailing?, selected, Option.map_none, Option.getD_none,
          List.append_nil, length_leading]
    | some widths =>
      refine .inr ⟨widths, widthsAfter?_eq_some_iff.mp selected, ?_, ?_⟩
      · rw [Columns.length_cut, widthsOf, trailing?, selected, Option.map_some, Option.getD_some,
          List.length_append, List.length_map, length_leading]
      · intro index inside
        exact cut_widthsOf_getElem? selected inside

end BranchingLayout

/-- **A variable layout in place.**  A line that is not empty and has fewer characters than the
    discriminator needs is refused, and that is the only refusal; any other line gets the first
    columns, and those that its discriminator selects, each where the present widths before it
    end.  Cutting at byte offsets meets no fault. -/
theorem ColumnLayout.variable_cut_in_place (layout : BranchingLayout) (line : List Char)
    (checked : layout.check = .ok ()) (nonempty : line ≠ []) :
    (line.length < layout.reach
        ∧ columnsAt? (.variable layout) line = some (.error (.layout (.discriminatorUnreached
          line.length (layout.discriminatorIndex + 1).toNat))))
      ∨ (layout.reach ≤ line.length
        ∧ ∃ columns, columnsAt? (.variable layout) line = some (.ok (some columns))
          ∧ layout.Divides line columns) := by
  have alike : columnsAt? (.variable layout) line =
      some ((layout.columns line).map some) := by
    rw [columnsAt?_eq, columns, if_neg (by simpa using nonempty)]
  rw [alike]
  rcases Nat.lt_or_ge line.length layout.reach with short | reached
  · refine .inl ⟨short, ?_⟩
    rw [BranchingLayout.columns_of_short checked short]
    rfl
  · refine .inr ⟨reached, ?_⟩
    have set := BranchingLayout.cut_leading_getElem? checked line
    rw [if_pos reached] at set
    obtain ⟨columns, divided⟩ := BranchingLayout.exists_columns set
    refine ⟨columns, ?_, BranchingLayout.divides_columns divided⟩
    rw [divided]
    rfl

def branchLayout : BranchingLayout :=
  ⟨1, [1, 2, 2], ⟨[("ß1", [2, -1, 0, 3])], by decide⟩⟩

/-- A line with an absent column and one of no width, which ends inside its last column. -/
theorem ColumnLayout.variable_cut_in_place_selected :
    branchLayout.check = .ok () ∧ "xß1déabcd".toList ≠ []
      ∧ ∃ columns, columnsAt? (.variable branchLayout) "xß1déabcd".toList = some (.ok (some columns))
        ∧ branchLayout.Divides "xß1déabcd".toList columns
        ∧ columns = [some ['x'], some ['ß', '1'], some ['d', 'é'], some ['a', 'b'], none, some [],
          none] := by
  have checked : branchLayout.check = .ok () := rfl
  have nonempty : "xß1déabcd".toList ≠ [] := by decide
  refine ⟨checked, nonempty, ?_⟩
  rcases variable_cut_in_place branchLayout _ checked nonempty with
    ⟨short, -⟩ | ⟨-, columns, cut, divides⟩
  · exact absurd short (by decide)
  · refine ⟨columns, cut, divides, ?_⟩
    have run : columnsAt? (.variable branchLayout) "xß1déabcd".toList = some (.ok (some [some ['x'],
        some ['ß', '1'], some ['d', 'é'], some ['a', 'b'], none, some [], none])) := by rfl
    rw [run] at cut
    cases cut
    rfl

end FlatFile
