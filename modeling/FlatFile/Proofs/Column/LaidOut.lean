/-
  FlatFile/Proofs/Column/LaidOut.lean
  ===================================
  **Values that were laid out are read back at their columns.**

  Laying out fills each value up, or cuts it, to the width of its column; cutting the line
  at byte offsets has to find it there again, whatever the values before it were.  A column
  takes up just its width in the line (`length_fitted`), so the first one can be cut off
  both (`Columns.cut_composeFixed`), and the induction on the values goes on with the line
  of the others.  When the values are used up so is the line, and only columns of no width
  are still set (`Columns.cut_nil_getElem?`).

  Values behind the last width follow the others as they are, and no column reaches them
  (`ColumnLayout.fixed_reads_laidOut`).
-/
import FlatFile.Proofs.Column.Refit
import FlatFile.Proofs.Column.Slots
import Mathlib.Algebra.Order.BigOperators.Group.List
import Mathlib.Algebra.Order.Group.Nat

namespace FlatFile

/-! ### One column -/

/-- A value in a column of some width: its first characters, or all of them and spaces. -/
def Columns.inWidth (width : Nat) (value : List Char) : List Char :=
  if width ≤ value.length then value.take width
  else value ++ List.replicate (width - value.length) ' '

theorem fitted_eq_inWidth (width : Nat) (value : List Char) :
    fitted width value = Columns.inWidth width value := by
  unfold Columns.inWidth
  split
  · rename_i long
    rw [fitted, Nat.sub_eq_zero_of_le long, List.replicate_zero, List.append_nil]
  · rename_i short
    exact fitted_of_short (Nat.le_of_not_le short)

namespace Columns

theorem cut_composeFixed (width : Nat) (widths : List Nat) (value : List Char)
    (values : List (List Char)) :
    (cut (some (composeFixed ((width :: widths).map some) (value :: values)))
        ((width :: widths).map some)).1 =
      some (fitted width value)
        :: (cut (some (composeFixed (widths.map some) values)) (widths.map some)).1 := by
  have piece := length_fitted width value
  have fits : width ≤
      (fitted width value ++ composeFixed (widths.map some) values).length := by
    rw [List.length_append, piece]
    exact Nat.le_add_right _ _
  rw [List.map_cons, composeFixed, cut, if_pos fits, List.take_left' piece, List.drop_left' piece]

/-- When the line is used up, columns are set as long as they have no width. -/
theorem cut_nil_getElem? (widths : List Nat) {index : Nat} (inside : index < widths.length) :
    (cut (some []) (widths.map some)).1[index]? =
      some (if (widths.take (index + 1)).all (· == 0) then some [] else none) := by
  have total : (widths.take index).sum + widths[index] = (widths.take (index + 1)).sum := by
    rw [List.take_add_one, List.getElem?_eq_getElem inside, Option.toList_some, List.sum_append,
      List.sum_singleton]
  have unset : (widths.take (index + 1)).sum = 0 ↔
      (widths.take (index + 1)).all (· == 0) = true := by
    simp only [List.sum_eq_zero_iff, List.all_eq_true, beq_iff_eq]
  simp only [cut_map_some_getElem?, List.getElem?_eq_getElem inside, Option.map_some, slot, total,
    List.length_nil, Nat.le_zero, unset, List.drop_nil, List.take_nil]

/-! ### All columns -/

/-- **The columns of some values**, one for each width.  Values behind the last width are in none of
    them. -/
structure LaidOut (widths : List Nat) (values : List (List Char)) (columns : Columns) : Prop where
  length : columns.length = widths.length
  /-- A column has its value. -/
  filled : ∀ index, (inside : index < widths.length) → (given : index < values.length) →
    columns[index]? = some (some (inWidth widths[index] values[index]))
  /-- The columns behind the last value are empty up to the first one that has a width. -/
  behind : ∀ index, index < widths.length → values.length ≤ index →
    columns[index]? = some
      (if ((widths.take (index + 1)).drop values.length).all (· == 0) then some [] else none)

theorem laidOut_cut (widths : List Nat) (values : List (List Char)) :
    LaidOut widths values
      (cut (some (composeFixed (widths.map some) values)) (widths.map some)).1 := by
  induction values generalizing widths with
  | nil =>
    refine ⟨?_, ?_, ?_⟩
    · rw [length_cut, List.length_map]
    · intro index _ given
      exact absurd given (Nat.not_lt_zero index)
    · intro index inside _
      have nothing : composeFixed (widths.map some) [] = [] := by rw [composeFixed]
      rw [nothing]
      exact cut_nil_getElem? widths inside
  | cons value values ih =>
    cases widths with
    | nil =>
      refine ⟨rfl, ?_, ?_⟩
      · intro index inside
        exact absurd inside (Nat.not_lt_zero index)
      · intro index inside
        exact absurd inside (Nat.not_lt_zero index)
    | cons width widths =>
      have others := ih widths
      -- The first column is cut off, and the others are those of the other values.
      rw [cut_composeFixed]
      refine ⟨congrArg (· + 1) others.length, ?_, ?_⟩
      · intro index inside given
        cases index with
        | zero => exact congrArg (some ∘ some) (fitted_eq_inWidth width value)
        | succ index =>
          exact others.filled index (Nat.lt_of_succ_lt_succ inside) (Nat.lt_of_succ_lt_succ given)
      · intro index inside past
        cases index with
        | zero => exact absurd past (Nat.not_succ_le_zero _)
        | succ index =>
          exact others.behind index (Nat.lt_of_succ_lt_succ inside) (Nat.le_of_succ_le_succ past)

/-- **Values behind the last width change no column.** -/
theorem LaidOut.eq_of_append {widths : List Nat} {values more : List (List Char)}
    {columns others : Columns} (laidOut : LaidOut widths values columns)
    (all : widths.length ≤ values.length) (laidOut' : LaidOut widths (values ++ more) others) :
    others = columns := by
  apply List.ext_getElem?
  intro index
  by_cases inside : index < widths.length
  · have given := inside.trans_le all
    have given' : index < (values ++ more).length := by
      rw [List.length_append]
      exact Nat.lt_add_right _ given
    rw [laidOut.filled index inside given, laidOut'.filled index inside given',
      List.getElem_append_left given]
  · have past := Nat.le_of_not_lt inside
    rw [List.getElem?_eq_none (by rwa [laidOut'.length]),
      List.getElem?_eq_none (by rwa [laidOut.length])]

end Columns

theorem composeFixed_nil_left (values : List (List Char)) :
    composeFixed [] values = values.flatten := by
  induction values with
  | nil => rfl
  | cons value values ih => rw [composeFixed, ih, List.flatten_cons]

theorem composeFixed_append {widths : List (Option Nat)} {values : List (List Char)}
    (all : widths.length ≤ values.length) (more : List (List Char)) :
    composeFixed widths (values ++ more) = composeFixed widths values ++ more.flatten := by
  induction values generalizing widths with
  | nil =>
    obtain rfl := List.eq_nil_of_length_eq_zero (Nat.le_zero.mp all)
    rw [composeFixed_nil_left, composeFixed_nil_left, List.flatten_append]
  | cons value values ih =>
    cases widths with
    | nil => rw [composeFixed_nil_left, composeFixed_nil_left, List.flatten_append]
    | cons width widths =>
      have others := ih (Nat.le_of_succ_le_succ all)
      cases width with
      | none => exact others
      | some width => rw [List.cons_append, composeFixed, composeFixed, others, List.append_assoc]

theorem ColumnLayout.columns_fixed_compose {widths : List Nat} {values : List (List Char)}
    (filled : compose (some (.fixed widths)) values ≠ []) :
    columns (.fixed widths) (compose (some (.fixed widths)) values) =
      .ok (some
        (Columns.cut (some (composeFixed (widths.map some) values)) (widths.map some)).1) := by
  rw [columns, if_neg (by rwa [List.isEmpty_iff])]
  rfl

/-- **Values that were laid out are read back at their columns**, if they make a line at all: each
    cut or filled up to its width, and the columns that no value is left for as the end of the line
    leaves them.  Values behind the last width stand at the end of the line and change no column. -/
theorem ColumnLayout.fixed_reads_laidOut (widths : List Nat) (values : List (List Char))
    (filled : compose (some (.fixed widths)) values ≠ []) :
    ∃ cut, Columns.LaidOut widths values cut
      ∧ columns (.fixed widths) (compose (some (.fixed widths)) values) = .ok (some cut)
      ∧ columnsAt? (.fixed widths) (compose (some (.fixed widths)) values) = some (.ok (some cut))
      ∧ ∀ more, widths.length ≤ values.length →
        compose (some (.fixed widths)) (values ++ more) =
            compose (some (.fixed widths)) values ++ more.flatten
          ∧ columns (.fixed widths) (compose (some (.fixed widths)) (values ++ more)) =
            .ok (some cut) := by
  have laidOut := Columns.laidOut_cut widths values
  have read := columns_fixed_compose filled
  refine ⟨_, laidOut, read, ?_, ?_⟩
  · rw [columnsAt?_eq, read]
  · intro more all
    have same : compose (some (.fixed widths)) (values ++ more) =
        compose (some (.fixed widths)) values ++ more.flatten :=
      composeFixed_append (by rwa [List.length_map]) more
    have longer : compose (some (.fixed widths)) (values ++ more) ≠ [] := by
      rw [same]
      exact List.append_ne_nil_of_left_ne_nil filled _
    refine ⟨same, ?_⟩
    rw [columns_fixed_compose longer,
      laidOut.eq_of_append all (Columns.laidOut_cut widths (values ++ more))]

/-- A short value, an overlong one of which one character is not ASCII and one in a column of no
    width, before two columns without a value; and two more values than columns. -/
theorem ColumnLayout.fixed_reads_laidOut_short :
    (compose (some (.fixed [3, 4, 0, 0, 2])) ["ab".toList, "héllo".toList, ['z']] ≠ []
        ∧ columns (.fixed [3, 4, 0, 0, 2])
            (compose (some (.fixed [3, 4, 0, 0, 2])) ["ab".toList, "héllo".toList, ['z']]) =
          .ok (some [some "ab ".toList, some "héll".toList, some [], some [], none]))
      ∧ (compose (some (.fixed [2])) [['a']] ≠ []
        ∧ columns (.fixed [2]) (compose (some (.fixed [2])) [['a'], ['b', 'c'], []]) =
          .ok (some [some ['a', ' ']])) := by
  refine ⟨⟨by decide, ?_⟩, by decide, ?_⟩
  · obtain ⟨cut, laidOut, read, -⟩ := fixed_reads_laidOut [3, 4, 0, 0, 2]
      ["ab".toList, "héllo".toList, ['z']] (by decide)
    have same : cut = [some "ab ".toList, some "héll".toList, some [], some [], none] := by
      apply List.ext_getElem?
      intro index
      rcases index with _ | _ | _ | _ | _ | index
      · exact laidOut.filled 0 (by decide) (by decide)
      · exact laidOut.filled 1 (by decide) (by decide)
      · exact laidOut.filled 2 (by decide) (by decide)
      · exact laidOut.behind 3 (by decide) (by decide)
      · exact laidOut.behind 4 (by decide) (by decide)
      · exact List.getElem?_eq_none (by rw [laidOut.length]; exact Nat.le_add_left 5 index)
    rw [read, same]
  · obtain ⟨cut, laidOut, -, -, longer⟩ := fixed_reads_laidOut [2] [['a']] (by decide)
    have same : cut = [some ['a', ' ']] := by
      obtain ⟨column, rfl⟩ := List.length_eq_one_iff.mp laidOut.length
      have filled := laidOut.filled 0 (by decide) (by decide)
      rw [List.getElem?_cons_zero] at filled
      rw [Option.some.inj filled]
      rfl
    rw [← same]
    exact (longer [['b', 'c'], []] (by decide)).2

end FlatFile
