/-
  FlatFile/Proofs/Column/Restore.lean
  ===================================
  **A line that is divided into columns is put together again.**

  Under a separator nothing is lost, whatever the occurrences of the separator share
  with each other and with the text around them (`join_split`).  Columns with widths
  lose what stands after the last one that is full: they are the pieces of the line up
  to the largest sum of first widths that its length allows (`Columns.cut_eq`), and
  pieces that fill their columns are laid out as they are (`composeFixed_of_lengths`).
  A column that a kind of line does not have is cut from nothing and laid out as nothing.
-/
import FlatFile.Column.Compose
import FlatFile.Column.Cut
import Mathlib.Algebra.GroupWithZero.Nat
import Mathlib.Data.List.ReduceOption

namespace FlatFile

/-! ### Delimited columns -/

namespace Text

theorem splitFrom_ne_nil (separator : List Char) (skip : Nat) (token text : List Char) :
    splitFrom separator skip token text ≠ [] := by
  induction text generalizing skip token with
  | nil =>
    cases skip with
    | zero => exact List.cons_ne_nil _ _
    | succ skip => exact List.cons_ne_nil _ _
  | cons c rest ih =>
    cases skip with
    | succ skip => exact ih skip token
    | zero =>
      rw [splitFrom]
      split
      · exact List.cons_ne_nil _ _
      · exact ih 0 (c :: token)

/-- The token at hand and all that follow are the text, but for what is passed over. -/
theorem join_splitFrom {separator : List Char} (nonempty : separator ≠ []) (skip : Nat)
    (token text : List Char) :
    join separator (splitFrom separator skip token text) = token.reverse ++ text.drop skip := by
  induction text generalizing skip token with
  | nil =>
    have last : splitFrom separator skip token [] = [token.reverse] := by
      cases skip with
      | zero => rfl
      | succ skip => rfl
    rw [last, List.drop_nil, List.append_nil, join, List.intercalate_singleton]
  | cons c rest ih =>
    cases skip with
    | succ skip =>
      rw [splitFrom, ih, List.drop_succ_cons]
    | zero =>
      rw [splitFrom]
      split
      · rename_i found
        -- The rest of the separator is passed over, so the text goes on behind it.
        have occurrence := List.prefix_iff_eq_append.mp (List.isPrefixOf_iff_prefix.mp found)
        obtain ⟨n, length⟩ : ∃ n, separator.length = n + 1 :=
          Nat.exists_eq_succ_of_ne_zero fun none => nonempty (List.eq_nil_of_length_eq_zero none)
        rw [join, List.intercalate_cons_of_ne_nil (splitFrom_ne_nil _ _ _ _), ← join, ih,
          List.reverse_nil, List.nil_append, length, Nat.add_sub_cancel, List.drop_zero]
        rw [length, List.drop_succ_cons] at occurrence
        rw [List.append_assoc, occurrence]
      · rw [ih]
        simp

theorem length_split_le {separator : List Char} (nonempty : separator ≠ []) (text : List Char) :
    (split separator text).length ≤ text.length + 1 := by
  have tokens : ∀ (skip : Nat) (token text : List Char),
      (splitFrom separator skip token text).length ≤ text.length + 1 := by
    intro skip token text
    induction text generalizing skip token with
    | nil =>
      cases skip with
      | zero => exact Nat.le_refl _
      | succ skip => exact Nat.le_refl _
    | cons c rest ih =>
      rw [List.length_cons]
      cases skip with
      | succ skip => exact Nat.le_succ_of_le (ih skip token)
      | zero =>
        rw [splitFrom]
        split
        · exact Nat.succ_le_succ (ih (separator.length - 1) [])
        · exact Nat.le_succ_of_le (ih 0 (c :: token))
  rw [split, if_neg (by simpa using nonempty)]
  exact tokens 0 [] text

/-- **Joining undoes splitting.** -/
theorem join_split {separator : List Char} (nonempty : separator ≠ []) (text : List Char) :
    join separator (split separator text) = text := by
  rw [split, if_neg (by simpa using nonempty), join_splitFrom nonempty]
  rfl

end Text

/-! ### Columns with widths -/

/-- The sums of the first widths, from none of them to all of them. -/
def boundaries (widths : List Nat) : List Nat :=
  (List.range (widths.length + 1)).map fun k => (widths.take k).sum

/-- The largest boundary of columns that a length reaches. -/
def lastBoundary (widths : List Nat) (length : Nat) : Nat :=
  ((boundaries widths).filter (· ≤ length)).max?.getD 0

theorem boundaries_cons (width : Nat) (widths : List Nat) :
    boundaries (width :: widths) = 0 :: (boundaries widths).map (width + ·) := by
  unfold boundaries
  rw [List.length_cons, List.range_succ_eq_map, List.map_cons, List.map_map, List.map_map]
  rfl

theorem zero_mem_boundaries (widths : List Nat) : 0 ∈ boundaries widths :=
  List.mem_map.mpr ⟨0, by simp, rfl⟩

/-- The last boundary is one, is reached, and no larger one is. -/
theorem lastBoundary_spec (widths : List Nat) (length : Nat) :
    (lastBoundary widths length ∈ boundaries widths ∧ lastBoundary widths length ≤ length)
      ∧ ∀ boundary ∈ boundaries widths, boundary ≤ length →
        boundary ≤ lastBoundary widths length := by
  have reached : 0 ∈ (boundaries widths).filter (· ≤ length) :=
    List.mem_filter.mpr ⟨zero_mem_boundaries widths, by simp⟩
  unfold lastBoundary
  cases greatest : ((boundaries widths).filter (· ≤ length)).max? with
  | none =>
    rw [List.max?_eq_none_iff] at greatest
    rw [greatest] at reached
    cases reached
  | some boundary =>
    rcases List.max?_eq_some_iff.mp greatest with ⟨inside, largest⟩
    have inside := List.mem_filter.mp inside
    refine ⟨⟨inside.1, by simpa using inside.2⟩, fun other member within => ?_⟩
    exact largest other (List.mem_filter.mpr ⟨member, by simpa using within⟩)

theorem lastBoundary_eq {widths : List Nat} {length boundary : Nat}
    (inside : boundary ∈ boundaries widths) (within : boundary ≤ length)
    (largest : ∀ other ∈ boundaries widths, other ≤ length → other ≤ boundary) :
    lastBoundary widths length = boundary := by
  obtain ⟨⟨inside', within'⟩, largest'⟩ := lastBoundary_spec widths length
  exact Nat.le_antisymm (largest _ inside' within') (largest' _ inside within)

theorem lastBoundary_nil (length : Nat) : lastBoundary [] length = 0 :=
  lastBoundary_eq (zero_mem_boundaries []) (Nat.zero_le _) (by simp [boundaries])

theorem lastBoundary_cons (width : Nat) (widths : List Nat) (length : Nat) :
    lastBoundary (width :: widths) length =
      if width ≤ length then width + lastBoundary widths (length - width) else 0 := by
  obtain ⟨⟨inside, within⟩, largest⟩ := lastBoundary_spec widths (length - width)
  split
  · rename_i fits
    refine lastBoundary_eq ?_ (by omega) ?_
    · rw [boundaries_cons]
      exact List.mem_cons_of_mem _ (List.mem_map_of_mem inside)
    · intro other member reached
      rw [boundaries_cons] at member
      rcases List.mem_cons.mp member with rfl | member
      · exact Nat.zero_le _
      · rcases List.mem_map.mp member with ⟨boundary, member', rfl⟩
        have := largest boundary member' (by omega)
        omega
  · rename_i short
    apply lastBoundary_eq (zero_mem_boundaries _) (Nat.zero_le _)
    intro other member reached
    rw [boundaries_cons] at member
    rcases List.mem_cons.mp member with rfl | member
    · exact Nat.le_refl _
    · rcases List.mem_map.mp member with ⟨boundary, -, rfl⟩
      omega

theorem lastBoundary_of_sum_le {widths : List Nat} {length : Nat} (long : widths.sum ≤ length) :
    lastBoundary widths length = widths.sum := by
  induction widths generalizing length with
  | nil => exact lastBoundary_nil length
  | cons width widths ih =>
    rw [List.sum_cons] at long ⊢
    rw [lastBoundary_cons, if_pos (by omega), ih (by omega)]

theorem reduceOption_map_some (widths : List Nat) : (widths.map some).reduceOption = widths := by
  rw [List.reduceOption, List.filterMap_map, Function.id_comp, List.filterMap_some]

theorem Columns.cut_none (widths : List (Option Nat)) :
    (Columns.cut none widths).1 = List.replicate widths.length none := by
  induction widths with
  | nil => rfl
  | cons width widths ih =>
    simp only [cut, ih]
    rfl

theorem Columns.length_cut (text : Option (List Char)) (widths : List (Option Nat)) :
    (Columns.cut text widths).1.length = widths.length := by
  induction widths generalizing text with
  | nil => rfl
  | cons width widths ih =>
    cases text with
    | none => exact congrArg (· + 1) (ih none)
    | some text =>
      cases width with
      | none => exact congrArg (· + 1) (ih (some text))
      | some width =>
        rw [cut]
        split
        · exact congrArg (· + 1) (ih (some (text.drop width)))
        · exact congrArg (· + 1) (ih none)

/-- **Cutting a text** gives columns of the widths up to the last boundary that the text reaches,
    absent ones among them, and columns that are not set after them. -/
theorem Columns.cut_eq (widths : List (Option Nat)) (text : List Char) :
    ∃ (reached : Columns) (unset : Nat), (Columns.cut (some text) widths).1 =
        reached ++ List.replicate unset none
      ∧ reached.map (Option.map List.length) <+: widths
      ∧ (reached.map (·.getD [])).flatten =
        text.take (lastBoundary widths.reduceOption text.length) := by
  induction widths generalizing text with
  | nil =>
    refine ⟨[], 0, rfl, List.nil_prefix, ?_⟩
    rw [List.reduceOption_nil, lastBoundary_nil]
    rfl
  | cons width widths ih =>
    cases width with
    | none =>
      obtain ⟨reached, unset, columns, lengths, flattened⟩ := ih text
      refine ⟨none :: reached, unset, ?_, ?_, ?_⟩
      · simp only [cut, columns, List.cons_append]
      · exact List.prefix_cons_inj none |>.mpr lengths
      · rw [List.reduceOption_cons_of_none, ← flattened]
        rfl
    | some width =>
      rw [cut, List.reduceOption_cons_of_some, lastBoundary_cons]
      split
      · rename_i fits
        obtain ⟨reached, unset, columns, lengths, flattened⟩ := ih (text.drop width)
        refine ⟨some (text.take width) :: reached, unset, ?_, ?_, ?_⟩
        · simp only [columns, List.cons_append]
        · rw [List.map_cons, Option.map_some, List.length_take, Nat.min_eq_left fits]
          exact List.prefix_cons_inj (some width) |>.mpr lengths
        · rw [List.map_cons, List.flatten_cons, flattened, List.length_drop, List.take_add]
          rfl
      · -- The text ends inside this column, and neither it nor a later one is set.
        refine ⟨[], widths.length + 1, ?_, List.nil_prefix, rfl⟩
        simp only [cut_none]
        rfl

theorem fitted_length (value : List Char) : fitted value.length value = value := by
  rw [fitted, List.take_length, Nat.sub_self, List.replicate_zero, List.append_nil]

/-- Columns of just their widths are laid out as they are, and an absent one takes no room. -/
theorem composeFixed_of_lengths {widths : List (Option Nat)} {columns : Columns}
    (lengths : columns.map (Option.map List.length) <+: widths) :
    composeFixed widths (columns.map (·.getD [])) = (columns.map (·.getD [])).flatten := by
  induction columns generalizing widths with
  | nil =>
    rw [List.map_nil, composeFixed]
    rfl
  | cons column columns ih =>
    rcases lengths with ⟨more, rfl⟩
    have others := ih (List.prefix_append _ more)
    rw [List.map_cons, List.cons_append, List.map_cons, List.flatten_cons, ← others]
    cases column with
    | none => rfl
    | some value => rw [Option.map_some, Option.getD_some, composeFixed, fitted_length]

end FlatFile
