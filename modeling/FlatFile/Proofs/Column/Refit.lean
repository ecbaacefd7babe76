/-
  FlatFile/Proofs/Column/Refit.lean
  =================================
  **Columns whose values were trimmed are cut again as they were laid out.**

  A value that lost its blanks is filled up with spaces to the width of its column, so the
  columns after it stay where they were, and trimming the column again gives the same value
  (`Settles`).  Laid out in a line, the columns that were reached still fill it up to its
  end, and the same ones are reached when it is cut again (`cut_refit`).

  Between separators of one character trimmed values stay apart: none of them holds the
  character, so the line joined from them is split into just these (`split_join`).
-/
import FlatFile.Proofs.Column.Branching
import FlatFile.Proofs.Recovery.Columns
import FlatFile.Proofs.Text.Trimming

namespace FlatFile

namespace Text

/-! ### Tokens without the separator -/

theorem splitFrom_of_not_mem {c : Char} {token : List Char} (apart : c ∉ token)
    (sofar rest : List Char) :
    splitFrom [c] 0 sofar (token ++ rest) = splitFrom [c] 0 (token.reverse ++ sofar) rest := by
  induction token generalizing sofar with
  | nil => rfl
  | cons d token ih =>
    rw [List.mem_cons, not_or] at apart
    have other : [c].isPrefixOf (d :: (token ++ rest)) ≠ true := by
      simpa [List.isPrefixOf] using apart.1
    rw [List.cons_append, splitFrom, if_neg other, ih apart.2]
    simp

/-- **Tokens without the separator are read back** from the text that is joined of them. -/
theorem split_join {c : Char} {tokens : List (List Char)} (some_token : tokens ≠ [])
    (apart : ∀ token ∈ tokens, c ∉ token) : split [c] (join [c] tokens) = tokens := by
  rw [split, if_neg (by simp)]
  induction tokens with
  | nil => exact absurd rfl some_token
  | cons token tokens ih =>
    rcases List.forall_mem_cons.mp apart with ⟨here, others⟩
    cases tokens with
    | nil =>
      have last := splitFrom_of_not_mem here [] []
      rw [join, List.intercalate_singleton]
      rw [List.append_nil, List.append_nil] at last
      rw [last, splitFrom, List.reverse_reverse]
    | cons next tokens =>
      have more := ih (List.cons_ne_nil _ _) others
      have found : [c].isPrefixOf (c :: join [c] (next :: tokens)) = true := by
        simp [List.isPrefixOf]
      rw [join, List.intercalate_cons_of_ne_nil (List.cons_ne_nil _ _), ← join, List.append_assoc,
        splitFrom_of_not_mem here, List.append_nil, List.singleton_append, splitFrom, if_pos found,
        List.reverse_reverse]
      exact congrArg (token :: ·) more

theorem not_mem_of_mem_splitFrom {c : Char} {sofar text token : List Char} (apart : c ∉ sofar)
    (inside : token ∈ splitFrom [c] 0 sofar text) : c ∉ token := by
  induction text generalizing sofar with
  | nil =>
    rw [splitFrom, List.mem_singleton] at inside
    rwa [inside, List.mem_reverse]
  | cons d text ih =>
    rw [splitFrom] at inside
    split at inside
    · rcases List.mem_cons.mp inside with rfl | inside
      · rwa [List.mem_reverse]
      · exact ih List.not_mem_nil inside
    · rename_i other
      apply ih _ inside
      rw [List.mem_cons, not_or]
      refine ⟨?_, apart⟩
      simpa [List.isPrefixOf] using other

theorem not_mem_of_mem_split {c : Char} {text token : List Char}
    (inside : token ∈ split [c] text) : c ∉ token := by
  rw [split, if_neg (by simp)] at inside
  exact not_mem_of_mem_splitFrom List.not_mem_nil inside

/-- Tokens made of other ones by leaving characters out need no further characters. -/
theorem mem_of_mem_join_map {shown : List Char → List Char}
    (within : ∀ token, ∀ c ∈ shown token, c ∈ token) {separator : List Char}
    {tokens : List (List Char)} {c : Char} (inside : c ∈ join separator (tokens.map shown)) :
    c ∈ join separator tokens := by
  induction tokens with
  | nil => exact inside
  | cons token tokens ih =>
    cases tokens with
    | nil =>
      rw [List.map_singleton, join, List.intercalate_singleton] at inside
      rw [join, List.intercalate_singleton]
      exact within token c inside
    | cons next tokens =>
      rw [List.map_cons, join,
        List.intercalate_cons_of_ne_nil (by rw [List.map_cons]; exact List.cons_ne_nil _ _),
        ← join] at inside
      rw [join, List.intercalate_cons_of_ne_nil (List.cons_ne_nil _ _), ← join]
      simp only [List.mem_append] at inside ⊢
      rcases inside with (here | between) | there
      · exact .inl (.inl (within token c here))
      · exact .inl (.inr between)
      · exact .inr (ih there)

end Text

/-! ### Columns laid out and cut again -/

/-- **A way to show values that settles**: it does not make them longer, and shows what fills up
    the column of a value as it showed the value. -/
structure Settles (shown : List Char → List Char) : Prop where
  short : ∀ value, (shown value).length ≤ value.length
  again : ∀ value, shown (fitted value.length (shown value)) = shown value

theorem length_fitted (width : Nat) (value : List Char) : (fitted width value).length = width := by
  rw [fitted, List.length_append, List.length_take, List.length_replicate]
  omega

theorem fitted_of_short {width : Nat} {value : List Char} (short : value.length ≤ width) :
    fitted width value = value ++ List.replicate (width - value.length) ' ' := by
  rw [fitted, List.take_of_length_le short]

theorem settles_id : Settles fun value => value := by
  constructor
  · intro value
    exact Nat.le_refl _
  · intro value
    exact fitted_length value

theorem settles_trim : Settles Text.trim := by
  constructor
  · exact Text.length_trim_le
  · intro value
    rw [fitted_of_short (Text.length_trim_le value), Text.trim_trim_append_spaces]

namespace Columns

variable {shown : List Char → List Char}

/-- The columns with their values shown, each filled up to the width that it had. -/
def refit (shown : List Char → List Char) (columns : Columns) : Columns :=
  columns.map (Option.map fun value => fitted value.length (shown value))

/-- The text of the columns that are set. -/
def text (columns : Columns) : List Char := (columns.map (·.getD [])).flatten

@[simp] theorem text_nil : text [] = [] := rfl

@[simp] theorem text_none (columns : Columns) : text (none :: columns) = text columns := rfl

@[simp] theorem text_some (value : List Char) (columns : Columns) :
    text (some value :: columns) = value ++ text columns := rfl

theorem text_append (columns more : Columns) :
    text (columns ++ more) = text columns ++ text more := by
  rw [text, List.map_append, List.flatten_append, ← text, ← text]

theorem text_replicate (unset : Nat) : text (List.replicate unset none) = [] := by
  induction unset with
  | zero => rfl
  | succ unset ih => rw [List.replicate_succ, text_none, ih]

/-- **The columns that were laid out are cut again.** -/
theorem cut_refit (shown : List Char → List Char) (widths : List (Option Nat))
    (line : List Char) :
    (cut (some (text (refit shown (cut (some line) widths).1))) widths).1 =
      refit shown (cut (some line) widths).1 := by
  induction widths generalizing line with
  | nil => rfl
  | cons width widths ih =>
    cases width with
    | none =>
      simp only [cut, refit, List.map_cons, Option.map_none, text_none]
      exact congrArg (none :: ·) (ih line)
    | some width =>
      by_cases fits : width ≤ line.length
      · have more := ih (line.drop width)
        have whole : (line.take width).length = width := List.length_take_of_le fits
        have piece := length_fitted width (shown (line.take width))
        generalize filled : fitted width (shown (line.take width)) = value at piece
        have columns : refit shown (cut (some line) (some width :: widths)).1 =
            some value :: refit shown (cut (some (line.drop width)) widths).1 := by
          simp only [cut, if_pos fits, refit, List.map_cons, Option.map_some, whole, filled]
        have wide : width ≤ (value ++
            text (refit shown (cut (some (line.drop width)) widths).1)).length := by
          rw [List.length_append]
          omega
        rw [columns, text_some, cut, if_pos wide, List.take_left' piece, List.drop_left' piece]
        exact congrArg (some value :: ·) more
      · -- The line ends inside this column, so nothing is laid out, and the width is not zero.
        have columns : refit shown (cut (some line) (some width :: widths)).1 =
            List.replicate (widths.length + 1) none := by
          simp [cut, if_neg fits, refit, cut_none, List.replicate_succ]
        have wide : ¬ width ≤ ([] : List Char).length := by
          rw [List.length_nil]
          omega
        rw [columns, text_replicate, cut, if_neg wide]
        simp only [cut_none, List.replicate_succ]

theorem composeFixed_refit {widths : List (Option Nat)} {columns : Columns}
    (lengths : columns.map (Option.map List.length) <+: widths) :
    composeFixed widths ((columns.map (Option.map shown)).map (·.getD [])) =
      text (refit shown columns) := by
  induction columns generalizing widths with
  | nil => rw [List.map_nil, List.map_nil, composeFixed]; rfl
  | cons column columns ih =>
    rcases lengths with ⟨more, rfl⟩
    have others := ih (List.prefix_append _ more)
    cases column with
    | none => exact others
    | some value => exact congrArg (fitted value.length (shown value) ++ ·) others

theorem trimmed_map (shown : List Char → List Char) (columns : Columns) :
    trimmed (columns.map (Option.map shown)) = (trimmed columns).map (Option.map shown) := by
  induction columns using List.reverseRecOn with
  | nil => rfl
  | append_singleton columns column ih =>
    rw [List.map_append, List.map_singleton]
    cases column with
    | none => rw [Option.map_none, trimmed_append_none, trimmed_append_none, ih]
    | some value =>
      rw [Option.map_some, trimmed_append_some, trimmed_append_some, List.map_append]
      rfl

/-- **Shown columns are laid out in the widths that they were cut by.** -/
theorem compose_shown (shown : List Char → List Char) (widths : List (Option Nat))
    (line : List Char) :
    composeFixed widths
        ((trimmed ((cut (some line) widths).1.map (Option.map shown))).map (·.getD [])) =
      text (refit shown (cut (some line) widths).1) := by
  obtain ⟨reached, unset, columns, lengths, -⟩ := cut_eq widths line
  obtain ⟨lost, whole⟩ := eq_trimmed_append reached
  have same : trimmed (reached ++ List.replicate unset none) = trimmed reached :=
    trimmed_append_replicate reached unset
  rw [columns, trimmed_map, same]
  generalize trimmed reached = kept at whole
  -- What is lost of the columns has no text, whether it was absent or not reached.
  subst whole
  rw [List.map_append] at lengths
  rw [composeFixed_refit ((List.prefix_append _ _).trans lengths), refit, refit, List.map_append,
    List.map_append, List.map_replicate, List.map_replicate, Option.map_none, text_append,
    text_append, text_replicate, text_replicate, List.append_nil, List.append_nil]

/-- Showing the columns that were laid out gives what was shown before. -/
theorem shown_refit (settles : Settles shown) (columns : Columns) :
    (refit shown columns).map (Option.map shown) = columns.map (Option.map shown) := by
  rw [refit, List.map_map]
  apply List.map_congr_left
  intro column _
  cases column with
  | none => rfl
  | some value => exact congrArg some (settles.again value)

/-! ### Characters -/

theorem mem_of_mem_cut {widths : List (Option Nat)} {line value : List Char}
    (inside : some value ∈ (cut (some line) widths).1) {c : Char} (member : c ∈ value) :
    c ∈ line := by
  obtain ⟨index, found⟩ := List.mem_iff_getElem?.mp inside
  obtain ⟨width, -, rfl⟩ := eq_of_cut_getElem? found
  exact List.mem_of_mem_drop (List.mem_of_mem_take member)

theorem eq_space_or_mem_of_mem_refit {columns : Columns} {c : Char}
    (inside : c ∈ text (refit shown columns)) :
    c = ' ' ∨ ∃ value, some value ∈ columns ∧ c ∈ shown value := by
  induction columns with
  | nil => cases inside
  | cons column columns ih =>
    have others : c ∈ text (refit shown columns) →
        c = ' ' ∨ ∃ value, some value ∈ column :: columns ∧ c ∈ shown value := by
      intro inside
      rcases ih inside with space | ⟨value, member, found⟩
      · exact .inl space
      · exact .inr ⟨value, List.mem_cons_of_mem _ member, found⟩
    cases column with
    | none => exact others inside
    | some value =>
      have split : c ∈ fitted value.length (shown value) ++ text (refit shown columns) := inside
      rcases List.mem_append.mp split with here | there
      · rcases List.mem_append.mp here with found | filled
        · exact .inr ⟨value, List.mem_cons_self, List.mem_of_mem_take found⟩
        · exact .inl (List.eq_of_mem_replicate filled)
      · exact others there

end Columns

end FlatFile
