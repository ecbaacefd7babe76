/-
  FlatFile/Proofs/Recovery/Normal.lean
  ====================================
  **What comes back from a document comes back as it is from the next one.**

  A line may lose something on its way into a document and back: the blanks around its
  values and the text after its last column.  What is left is its normal form
  (`Rendering.normal`), and a document shows the same columns of both
  (`presented_normal`), whatever the layout: trimmed columns are cut again where they were
  laid out, the discriminator among them selects the same widths as before, and values
  without the separator stay apart.  Header lines have their hyphens apart after one pass.

  A record of columns that tell their positions has the normal form for its line
  (`Mirrors.line_gathered_normal`).
-/
import FlatFile.Proofs.Column.Refit
import FlatFile.Proofs.Recovery.Branching
import FlatFile.Proofs.Recovery.Comments
import FlatFile.Proofs.Recovery.Counting

namespace FlatFile

open Markup

/-! ### The normal form of a line -/

/-- The layouts whose lines settle: those that come with the program, where a separator is a single
    character. -/
inductive ColumnLayout.Regular : Option ColumnLayout → Prop where
  | none : Regular none
  | fixed (widths : List Nat) : Regular (some (.fixed widths))
  | delimited (separator : Char) : Regular (some (.delimited [separator]))
  | branching (layout : BranchingLayout) : Regular (some (.variable layout))

namespace Rendering

/-- The columns of a line with their values as a document shows them. -/
def presented (rendering : Rendering) (line : List Char) : Columns :=
  (rendering.extracted line).map (Option.map rendering.shownValue)

/-- **The normal form of a line**: the line of the columns that a document shows of it, up to the
    last one that is set. -/
def normal (rendering : Rendering) (line : List Char) : List Char :=
  if rendering.layout.isNone then line
  else ColumnLayout.compose rendering.layout ((rendering.presented line).trimmed.map (·.getD []))

variable {rendering : Rendering} {line : List Char}

theorem settles_shownValue (rendering : Rendering) : Settles rendering.shownValue := by
  cases strip : rendering.converters.strip with
  | true =>
    have same : rendering.shownValue = Text.trim := by
      funext value
      simp [shownValue, strip]
    rw [same]
    exact settles_trim
  | false =>
    have same : rendering.shownValue = fun value => value := by
      funext value
      simp [shownValue, strip]
    rw [same]
    exact settles_id

theorem mem_of_mem_shownValue {value : List Char} {c : Char}
    (inside : c ∈ rendering.shownValue value) : c ∈ value := by
  unfold shownValue at inside
  split at inside
  · exact Text.mem_of_mem_trim inside
  · exact inside

theorem presented_nil (rendering : Rendering) : rendering.presented [] = [] := by
  rw [presented, extracted_nil, List.map_nil]

theorem normal_nil (rendering : Rendering) : rendering.normal [] = [] := by
  unfold normal
  split
  · rfl
  · rw [presented_nil]
    exact Recovery.compose_nil _

theorem normal_of_divided (divided : rendering.layout.isNone = false) (line : List Char) :
    rendering.normal line = ColumnLayout.compose rendering.layout
      ((rendering.presented line).trimmed.map (·.getD [])) := by
  rw [normal, if_neg (by rw [divided]; exact Bool.false_ne_true)]

/-! #### Columns with widths -/

theorem presented_of_cut {widths : List (Option Nat)} {normal : List Char}
    (cut : rendering.extracted line = (Columns.cut (some line) widths).1)
    (refit : normal = Columns.text (Columns.refit rendering.shownValue (rendering.extracted line)))
    (again : rendering.extracted normal = (Columns.cut (some normal) widths).1) :
    rendering.presented normal = rendering.presented line := by
  rw [presented, again, refit, cut, Columns.cut_refit, Columns.shown_refit
    (settles_shownValue rendering), ← cut, presented]

theorem normal_fixed {widths : List Nat} (layout : rendering.layout = some (.fixed widths))
    (nonempty : line ≠ []) :
    rendering.normal line =
      Columns.text (Columns.refit rendering.shownValue (rendering.extracted line)) := by
  rw [normal_of_divided (by rw [layout]; rfl), layout, presented, extracted_fixed layout nonempty]
  exact Columns.compose_shown _ _ _

variable {layout : BranchingLayout}

theorem getElem?_trimmed {columns : Columns} {index : Nat} {value : List Char}
    (set : columns[index]? = some (some value)) : columns.trimmed[index]? = some (some value) := by
  obtain ⟨lost, whole⟩ := Columns.eq_trimmed_append columns
  rw [whole] at set
  by_cases kept : index < columns.trimmed.length
  · rwa [List.getElem?_append_left kept] at set
  · rw [List.getElem?_append_right (Nat.le_of_not_lt kept)] at set
    cases List.eq_of_mem_replicate (List.mem_of_getElem? set)

/-- Blanks around a discriminator make no difference. -/
theorem trailing?_of_trim {value value' : List Char} (same : Text.trim value = Text.trim value') :
    layout.trailing? value = layout.trailing? value' := by
  simp only [BranchingLayout.trailing?, BranchingLayout.widthsAfter?, same]

theorem trim_fitted_shownValue (rendering : Rendering) (value : List Char) :
    Text.trim (fitted value.length (rendering.shownValue value)) = Text.trim value := by
  unfold shownValue
  split
  · exact settles_trim.again value
  · rw [fitted_length]

theorem trim_shownValue (rendering : Rendering) (value : List Char) :
    Text.trim (rendering.shownValue value) = Text.trim value := by
  unfold shownValue
  split
  · exact Text.trim_trim value
  · rfl

theorem shownValue_shownValue (rendering : Rendering) (value : List Char) :
    rendering.shownValue (rendering.shownValue value) = rendering.shownValue value := by
  unfold shownValue
  split
  · exact Text.trim_trim value
  · rfl

theorem normal_variable (chosen : rendering.layout = some (.variable layout))
    (nonempty : line ≠ []) (divides : Divides rendering.layout line) :
    rendering.normal line =
      Columns.text (Columns.refit rendering.shownValue (rendering.extracted line)) := by
  obtain ⟨cut, set⟩ := extracted_variable chosen nonempty divides
  have shown : (rendering.presented line).trimmed[layout.discriminatorIndex.toNat]? =
      some (some (rendering.shownValue (layout.discriminatorOf line))) := by
    apply getElem?_trimmed
    rw [presented, List.getElem?_map, set]
    rfl
  have widths : layout.widthsFor ((rendering.presented line).trimmed.map (·.getD [])) =
      layout.widthsOf line := by
    rw [BranchingLayout.widthsFor, List.getElem?_map, shown]
    simp only [Option.map_some, Option.getD_some]
    rw [trailing?_of_trim (trim_shownValue rendering _), BranchingLayout.widthsOf]
  rw [normal_of_divided (by rw [chosen]; rfl), chosen, ColumnLayout.compose, widths, presented, cut]
  exact Columns.compose_shown _ _ _

/-- A layout divides the lines that reach the discriminator. -/
theorem divides_variable_iff (chosen : rendering.layout = some (.variable layout))
    (nonempty : line ≠ []) :
    Divides rendering.layout line ↔
      ∃ value, (Columns.cut (some line) layout.leading).1[layout.discriminatorIndex.toNat]? =
        some (some value) := by
  have filled : ¬ line.isEmpty = true := by simpa using nonempty
  constructor
  · intro divides
    obtain ⟨columns, divided⟩ := divides _ chosen
    rw [ColumnLayout.columns, if_neg filled] at divided
    cases columns' : layout.columns line with
    | error failure =>
      simp only [columns'] at divided
      cases divided
    | ok columns' => exact ⟨_, BranchingLayout.reached_of_columns ‹_›⟩
  · rintro ⟨value, reached⟩ other same
    rw [chosen] at same
    cases same
    obtain ⟨columns, divided⟩ := BranchingLayout.exists_columns reached
    exact ⟨some columns, by rw [ColumnLayout.columns, if_neg filled]; simp only [divided]; rfl⟩

/-- **The discriminator of a normal form** selects the widths that the line was cut by. -/
theorem widthsOf_normal (chosen : rendering.layout = some (.variable layout))
    (nonempty : line ≠ []) (divides : Divides rendering.layout line) :
    layout.widthsOf (rendering.normal line) = layout.widthsOf line
      ∧ ∃ value, (Columns.cut (some (rendering.normal line)) layout.leading).1[
        layout.discriminatorIndex.toNat]? = some (some value) := by
  obtain ⟨cut, set⟩ := extracted_variable chosen nonempty divides
  have again := Columns.cut_refit rendering.shownValue (layout.widthsOf line) line
  rw [← cut, ← normal_variable chosen nonempty divides, BranchingLayout.widthsOf,
    Columns.cut_append] at again
  have inside : layout.discriminatorIndex.toNat <
      (Columns.cut (some (rendering.normal line)) layout.leading).1.length := by
    obtain ⟨value, reached⟩ := (divides_variable_iff chosen nonempty).mp divides
    have below := (List.getElem?_eq_some_iff.mp reached).1
    rwa [Columns.length_cut] at below ⊢
  have found := congrArg (·[layout.discriminatorIndex.toNat]?) again
  simp only [List.getElem?_append_left inside] at found
  rw [Columns.refit, List.getElem?_map, set] at found
  refine ⟨?_, _, found⟩
  rw [BranchingLayout.widthsOf, ← BranchingLayout.eq_discriminatorOf found,
    trailing?_of_trim (trim_fitted_shownValue rendering _), ← BranchingLayout.widthsOf]

/-! #### All layouts -/

theorem normal_delimited {separator : Char}
    (layout : rendering.layout = some (.delimited [separator])) (nonempty : line ≠ []) :
    rendering.normal line =
      Text.join [separator] ((Text.split [separator] line).map rendering.shownValue) := by
  have columns : rendering.presented line =
      ((Text.split [separator] line).map rendering.shownValue).map some := by
    rw [presented, extracted_delimited layout nonempty, List.map_map, List.map_map]
    rfl
  rw [normal_of_divided (by rw [layout]; rfl), layout, columns, Columns.trimmed_map_some,
    Columns.getD_some]
  rfl

/-- **A document shows the same columns of a line and of its normal form.** -/
theorem presented_normal (regular : ColumnLayout.Regular rendering.layout)
    (divides : Divides rendering.layout line) (filled : rendering.normal line ≠ []) :
    rendering.presented (rendering.normal line) = rendering.presented line := by
  have nonempty : line ≠ [] := by
    intro empty
    rw [empty, normal_nil] at filled
    exact filled rfl
  generalize chosen : rendering.layout = layout at regular
  cases regular with
  | none =>
    have undivided (text : List Char) : rendering.presented text = [] := by
      rw [presented, extracted, chosen]
      rfl
    rw [undivided, undivided]
  | fixed widths =>
    exact presented_of_cut (extracted_fixed chosen nonempty) (normal_fixed chosen nonempty)
      (extracted_fixed chosen filled)
  | delimited separator =>
    have apart : ∀ token ∈ (Text.split [separator] line).map rendering.shownValue,
        separator ∉ token := by
      intro token inside member
      rcases List.mem_map.mp inside with ⟨value, split, rfl⟩
      exact Text.not_mem_of_mem_split split (mem_of_mem_shownValue member)
    have some_token : (Text.split [separator] line).map rendering.shownValue ≠ [] := by
      rw [ne_eq, List.map_eq_nil_iff, Text.split, if_neg (by simp)]
      exact Text.splitFrom_ne_nil _ _ _ _
    have again := Text.split_join some_token apart
    rw [← normal_delimited chosen nonempty] at again
    rw [presented, presented, extracted_delimited chosen filled,
      extracted_delimited chosen nonempty, again, List.map_map, List.map_map, List.map_map]
    apply List.map_congr_left
    intro value _
    exact congrArg some (shownValue_shownValue rendering value)
  | branching layout =>
    obtain ⟨cut, -⟩ := extracted_variable chosen nonempty divides
    obtain ⟨widths, reached⟩ := widthsOf_normal chosen nonempty divides
    obtain ⟨again, -⟩ := extracted_variable chosen filled
      ((divides_variable_iff chosen filled).mpr reached)
    rw [widths] at again
    exact presented_of_cut cut (normal_variable chosen nonempty divides) again

/-- **The normal form of a line is its own normal form.** -/
theorem normal_normal (regular : ColumnLayout.Regular rendering.layout)
    (divides : Divides rendering.layout line) :
    rendering.normal (rendering.normal line) = rendering.normal line := by
  by_cases empty : rendering.normal line = []
  · rw [empty, normal_nil]
  · have same := presented_normal regular divides empty
    cases divided : rendering.layout.isNone with
    | true => simp only [normal, divided, if_true]
    | false => rw [normal_of_divided divided (rendering.normal line), same,
        ← normal_of_divided divided]

theorem divides_nil (rendering : Rendering) : Divides rendering.layout [] :=
  fun layout _ => ⟨none, by cases layout <;> rfl⟩

/-- A line that can be divided has a normal form that can be. -/
theorem divides_normal (regular : ColumnLayout.Regular rendering.layout)
    (divides : Divides rendering.layout line) :
    Divides rendering.layout (rendering.normal line) := by
  by_cases filled : rendering.normal line = []
  · rw [filled]
    exact rendering.divides_nil
  · generalize chosen : rendering.layout = layout at regular
    cases regular with
    | none => exact nofun
    | fixed widths => exact (total_fixed widths).divides _
    | delimited separator => exact (total_delimited [separator]).divides _
    | branching layout =>
      have nonempty : line ≠ [] := by
        intro empty
        rw [empty, normal_nil] at filled
        exact filled rfl
      rw [← chosen]
      exact (divides_variable_iff chosen filled).mpr (widthsOf_normal chosen nonempty divides).2

theorem length_extracted_normal (regular : ColumnLayout.Regular rendering.layout)
    (divides : Divides rendering.layout line) :
    (rendering.extracted (rendering.normal line)).length ≤ (rendering.extracted line).length := by
  by_cases empty : rendering.normal line = []
  · rw [empty, extracted_nil]
    exact Nat.zero_le _
  · have same := congrArg List.length (presented_normal regular divides empty)
    rw [presented, presented, List.length_map, List.length_map] at same
    exact Nat.le_of_eq same

/-- A normal form is made of characters of the line and of spaces. -/
theorem eq_space_or_mem_of_mem_normal (regular : ColumnLayout.Regular rendering.layout)
    (divides : Divides rendering.layout line) {c : Char} (inside : c ∈ rendering.normal line) :
    c = ' ' ∨ c ∈ line := by
  have nonempty : line ≠ [] := by
    intro empty
    rw [empty, normal_nil] at inside
    cases inside
  have refitted {widths : List (Option Nat)}
      (cut : rendering.extracted line = (Columns.cut (some line) widths).1)
      (normal : rendering.normal line =
        Columns.text (Columns.refit rendering.shownValue (rendering.extracted line))) :
      c = ' ' ∨ c ∈ line := by
    rw [normal] at inside
    rcases Columns.eq_space_or_mem_of_mem_refit inside with space | ⟨value, member, found⟩
    · exact .inl space
    · rw [cut] at member
      exact .inr (Columns.mem_of_mem_cut member (mem_of_mem_shownValue found))
  generalize chosen : rendering.layout = layout at regular
  cases regular with
  | none =>
    rw [normal, chosen, Option.isNone_none, if_pos rfl] at inside
    exact .inr inside
  | fixed widths => exact refitted (extracted_fixed chosen nonempty) (normal_fixed chosen nonempty)
  | delimited separator =>
    rw [normal_delimited chosen nonempty] at inside
    have within := Text.mem_of_mem_join_map (fun _ _ => mem_of_mem_shownValue) inside
    rw [Text.join_split (List.cons_ne_nil _ _)] at within
    exact .inr within
  | branching layout =>
    exact refitted (extracted_variable chosen nonempty divides).1
      (normal_variable chosen nonempty divides)

end Rendering

/-! ### Header lines -/

theorem eq_space_or_mem_of_mem_hyphensApart {text : List Char} {c : Char}
    (inside : c ∈ hyphensApart text) : c = ' ' ∨ c ∈ text := by
  rw [← Recovery.spreadHyphens_eq] at inside
  exact (mem_or_eq_of_mem_spreadHyphens inside).symm

theorem length_le_hyphensApart (text : List Char) : text.length ≤ (hyphensApart text).length := by
  induction text with
  | nil => exact Nat.le_refl _
  | cons c text ih =>
    cases text with
    | nil => exact Nat.le_refl _
    | cons d rest =>
      rw [hyphensApart]
      split
      · simp only [List.length_cons] at ih ⊢
        omega
      · simp only [List.length_cons] at ih ⊢
        omega

namespace Rendering

variable {rendering : Rendering} {line : List Char}

theorem reached_of_length_le {widths : List Nat} {line longer value : List Char} {index : Nat}
    (long : line.length ≤ longer.length)
    (reached : (Columns.cut (some line) (widths.map some)).1[index]? = some (some value)) :
    ∃ value', (Columns.cut (some longer) (widths.map some)).1[index]? = some (some value') := by
  induction widths generalizing line longer index with
  | nil => cases reached
  | cons width widths ih =>
    rw [List.map_cons, Columns.cut] at reached ⊢
    split at reached
    · rename_i fits
      rw [if_pos (Nat.le_trans fits long)]
      cases index with
      | zero => exact ⟨_, rfl⟩
      | succ index =>
        apply ih _ reached
        rw [List.length_drop, List.length_drop]
        omega
    · simp only [Columns.cut_none] at reached
      cases index with
      | zero => cases reached
      | succ index => cases List.eq_of_mem_replicate (List.mem_of_getElem? reached)

/-- **A header line can be divided with its hyphens apart** if it could be before. -/
theorem divides_hyphensApart (regular : ColumnLayout.Regular rendering.layout)
    (divides : Divides rendering.layout line) :
    Divides rendering.layout (hyphensApart line) := by
  generalize chosen : rendering.layout = layout at regular
  cases regular with
  | none => exact nofun
  | fixed widths => exact (total_fixed widths).divides _
  | delimited separator => exact (total_delimited [separator]).divides _
  | branching layout =>
    rw [← chosen]
    cases line with
    | nil => exact rendering.divides_nil
    | cons c rest =>
      have filled : hyphensApart (c :: rest) ≠ [] := by
        obtain ⟨rest', first⟩ := exists_hyphensApart_cons c rest
        rw [first]
        exact List.cons_ne_nil _ _
      obtain ⟨value, reached⟩ := (divides_variable_iff chosen (List.cons_ne_nil c rest)).mp divides
      rw [BranchingLayout.leading_eq] at reached
      rw [divides_variable_iff chosen filled, BranchingLayout.leading_eq]
      exact reached_of_length_le (length_le_hyphensApart (c :: rest)) reached

end Rendering

/-! ### Records -/

namespace Recovery

variable {recovery : Recovery} {rendering : Rendering} {line : List Char}

/-- **The line of a record** of numbered columns is the normal form of the line that it was made
    of. -/
theorem Mirrors.line_gathered_normal (mirrors : recovery.Mirrors rendering)
    (layout : recovery.layout = rendering.layout)
    (unconverted : ∀ index, recovery.converters.converter? index = none)
    (elements : rendering.style.attributes = false)
    (numbered : rendering.style.columnNumbers = true) (all : rendering.leaves = fun _ => false)
    (few : (rendering.extracted line).length < UInt64.size) :
    recovery.line (recovery.gathered rendering line) = .ok (rendering.normal line) := by
  have separate : ¬ rendering.style.attributes = true := by
    rw [elements]
    exact Bool.false_ne_true
  have length : (rendering.presented line).length < UInt64.size := by
    rwa [Rendering.presented, List.length_map]
  have shown : rendering.shownColumns (rendering.extracted line) =
      rendering.listed (rendering.extracted line) := by
    rw [Rendering.shownColumns, if_neg separate]
    rfl
  have leads := recovery.leads_elements numbered few
  rw [Rendering.map_cell_listed, all, Columns.sparing_none] at leads
  rw [gathered, if_neg separate, shown, Rendering.normal_of_divided mirrors.divided, ← layout]
  exact line_of_leads unconverted length leads

end Recovery

end FlatFile
