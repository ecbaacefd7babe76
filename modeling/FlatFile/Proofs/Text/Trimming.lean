/-
  FlatFile/Proofs/Text/Trimming.lean
  ==================================
  **What trimming leaves.**

  A text keeps all of its characters if neither its first one nor its last one is blank
  (`trim_eq_self_iff`), and loses all of them if every one is (`trim_eq_nil_iff`).  What
  trimming leaves has no blank at either end, so trimming again changes nothing, also after
  it was filled up with spaces (`trim_trim_append_spaces`).
-/
import FlatFile.Text.Blank
import Mathlib.Data.List.DropRight
import Mathlib.Data.List.TakeWhile

namespace FlatFile.Text

variable {text : List Char}

theorem mem_of_mem_trim {c : Char} {text : List Char} (inside : c ∈ trim text) : c ∈ text := by
  have reversed := (List.dropWhile_sublist _).subset (List.mem_reverse.mp inside)
  exact (List.dropWhile_sublist _).subset (List.mem_reverse.mp reversed)

theorem length_trim_le (text : List Char) : (trim text).length ≤ text.length := by
  have first := (List.dropWhile_sublist isBlankChar (l := text)).length_le
  have last := (List.dropWhile_sublist isBlankChar (l := (trimStart text).reverse)).length_le
  rw [List.length_reverse] at last
  rw [trim, trimEnd, List.length_reverse]
  exact Nat.le_trans last first

/-! ### Texts without a blank at their ends -/

theorem trimStart_eq_self_iff :
    trimStart text = text ↔ ∀ c ∈ text.head?, isBlankChar c = false := by
  cases text with
  | nil => simp [trimStart]
  | cons c text => simp [trimStart, List.dropWhile_eq_self_iff]

theorem trimEnd_eq_self_iff :
    trimEnd text = text ↔ ∀ c ∈ text.getLast?, isBlankChar c = false := by
  rw [trimEnd, List.reverse_eq_iff, trimStart_eq_self_iff, List.head?_reverse]

/-- **Exactly a text without a blank at either end is left as it is.** -/
theorem trim_eq_self_iff :
    trim text = text ↔ (∀ c ∈ text.head?, isBlankChar c = false)
      ∧ ∀ c ∈ text.getLast?, isBlankChar c = false := by
  rw [← trimStart_eq_self_iff, ← trimEnd_eq_self_iff]
  constructor
  · intro same
    have suffix : trimStart text <:+ text := List.dropWhile_suffix isBlankChar
    have shorter : (trimEnd (trimStart text)).length ≤ (trimStart text).length :=
      (List.rdropWhile_prefix isBlankChar _).length_le
    have kept : (trimEnd (trimStart text)).length = text.length := congrArg List.length same
    have start : trimStart text = text := suffix.eq_of_length (by have := suffix.length_le; omega)
    constructor
    · exact start
    · rw [trim, start] at same
      exact same
  · rintro ⟨start, stop⟩
    rw [trim, start, stop]

theorem trimStart_eq_self (ink : ∀ c ∈ text, isBlankChar c = false) : trimStart text = text :=
  trimStart_eq_self_iff.mpr fun c first => ink c (List.mem_of_mem_head? first)

theorem trim_eq_self (ink : ∀ c ∈ text, isBlankChar c = false) : trim text = text :=
  trim_eq_self_iff.mpr ⟨fun c first => ink c (List.mem_of_mem_head? first),
    fun c last => ink c (List.mem_of_mem_getLast? last)⟩

/-- Trimming leaves nothing of a blank text, and of no other. -/
theorem trim_eq_nil_iff : trim text = [] ↔ isBlank text = true := by
  have start : trimStart text = [] ↔ isBlank text = true := by
    rw [trimStart, List.dropWhile_eq_nil_iff, isBlank, List.all_eq_true]
  rw [← start]
  constructor
  · intro nothing
    by_contra ink
    have first : isBlankChar ((trimStart text).head ink) = false :=
      List.head_dropWhile_not isBlankChar ink
    have blank : ∀ c ∈ trimStart text, isBlankChar c = true := List.rdropWhile_eq_nil_iff.mp nothing
    rw [blank _ (List.head_mem ink)] at first
    exact absurd first (by decide)
  · intro nothing
    rw [trim, nothing]
    rfl

/-! ### Trimming again -/

theorem trimEnd_append_spaces (text : List Char) (n : Nat) :
    trimEnd (text ++ List.replicate n ' ') = trimEnd text := by
  induction n with
  | zero => rw [List.replicate_zero, List.append_nil]
  | succ n ih =>
    rw [List.replicate_succ', ← List.append_assoc, ← ih]
    exact List.rdropWhile_concat_pos isBlankChar _ ' ' (by decide)

theorem trimEnd_trim (text : List Char) : trimEnd (trim text) = trim text :=
  List.rdropWhile_idempotent isBlankChar (trimStart text)

/-- A trimmed text begins with a character that is not blank, if it has any. -/
theorem trimStart_trim_append (text rest : List Char) (some_ink : trim text ≠ []) :
    trimStart (trim text ++ rest) = trim text ++ rest := by
  have prefixed : trim text <+: trimStart text := List.rdropWhile_prefix isBlankChar _
  cases ink : trim text with
  | nil => exact absurd ink some_ink
  | cons c more =>
    rw [ink] at prefixed
    obtain ⟨others, begins⟩ := prefixed
    have first : isBlankChar c = false := by
      have dropped : text.dropWhile isBlankChar = c :: (more ++ others) := begins.symm
      have filled : text.dropWhile isBlankChar ≠ [] := by
        rw [dropped]
        exact List.cons_ne_nil _ _
      simpa only [dropped, List.head_cons] using List.head_dropWhile_not isBlankChar filled
    rw [List.cons_append, trimStart, List.dropWhile_cons_of_neg (by simp [first])]

/-- **Trimming again undoes filling up.** -/
theorem trim_trim_append_spaces (text : List Char) (n : Nat) :
    trim (trim text ++ List.replicate n ' ') = trim text := by
  by_cases ink : trim text = []
  · have blanks : trimStart (List.replicate n ' ') = [] := by
      rw [trimStart, List.dropWhile_eq_nil_iff]
      intro c inside
      rw [List.eq_of_mem_replicate inside]
      decide
    rw [ink, List.nil_append, trim, blanks]
    rfl
  · rw [trim, trimStart_trim_append text _ ink, trimEnd_append_spaces, trimEnd_trim]

@[simp] theorem trim_trim (text : List Char) : trim (trim text) = trim text := by
  simpa using trim_trim_append_spaces text 0

end FlatFile.Text
