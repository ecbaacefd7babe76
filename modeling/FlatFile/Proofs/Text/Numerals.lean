/-
  FlatFile/Proofs/Text/Numerals.lean
  ==================================
  **A number that is written in decimal is read back.**

  The numerals here are written by the core library, whose `Nat.ofDigitChars` gives
  their value.  Reading stops at a bound, and no number is held that is larger than
  the one read in the end; so a number below the bound is found (`word?_decimal`).
-/
import FlatFile.Proofs.Text.Trimming
import FlatFile.Text.Numeral

namespace FlatFile.Text

theorem decimal_injective {m n : Nat} (h : decimal m = decimal n) : m = n := by
  have values := congrArg (fun digits => Nat.ofDigitChars 10 digits 0) h
  simpa only [decimal, Nat.ofDigitChars_ten_toDigits] using values

theorem isDigit_of_mem_decimal {n : Nat} {c : Char} (inside : c ∈ decimal n) : c.isDigit = true :=
  Nat.isDigit_of_mem_toDigits (by decide) (by decide) inside

/-- A text with a number at its end does not end in anything but a digit. -/
theorem append_decimal_ne (text : List Char) (number : Nat) {last : Char}
    (letter : last.isDigit = false) (other : List Char) :
    text ++ decimal number ≠ other ++ [last] := by
  intro same
  have nonempty : decimal number ≠ [] := Nat.toDigits_ne_nil
  have digit := isDigit_of_mem_decimal (List.getLast_mem nonempty)
  rw [← List.dropLast_concat_getLast nonempty, ← List.append_assoc] at same
  rw [List.singleton_inj.mp (List.append_inj_right' same rfl), letter] at digit
  cases digit

theorem digitValue?_of_isDigit {c : Char} (digit : c.isDigit = true) :
    digitValue? c = some (c.toNat - '0'.toNat) := by
  have range : '0' ≤ c ∧ c ≤ '9' := by
    simp only [Char.isDigit, ge_iff_le, Bool.and_eq_true, decide_eq_true_eq] at digit
    exact digit
  rw [digitValue?, if_pos range]

theorem le_ofDigitChars (digits : List Char) (sofar : Nat) :
    sofar ≤ Nat.ofDigitChars 10 digits sofar := by
  induction digits generalizing sofar with
  | nil => exact Nat.le_of_eq Nat.ofDigitChars_nil.symm
  | cons c digits ih =>
    rw [Nat.ofDigitChars_cons]
    have := ih (10 * sofar + (c.toNat - '0'.toNat))
    omega

theorem digitsFrom?_of_digits {digits : List Char} (all : ∀ c ∈ digits, c.isDigit = true)
    {bound sofar : Nat} (below : Nat.ofDigitChars 10 digits sofar < bound) :
    digitsFrom? bound sofar digits = some (Nat.ofDigitChars 10 digits sofar) := by
  induction digits generalizing sofar with
  | nil => rfl
  | cons c digits ih =>
    rw [Nat.ofDigitChars_cons] at below ⊢
    have small : 10 * sofar + (c.toNat - '0'.toNat) < bound :=
      Nat.lt_of_le_of_lt (le_ofDigitChars _ _) below
    rcases List.forall_mem_cons.mp all with ⟨digit, others⟩
    rw [digitsFrom?, digitValue?_of_isDigit digit]
    simp only [if_pos small]
    exact ih others below

theorem lt_of_digitsFrom? {bound sofar n : Nat} (small : sofar < bound) {text : List Char}
    (read : digitsFrom? bound sofar text = some n) : n < bound := by
  induction text generalizing sofar with
  | nil =>
    cases read
    exact small
  | cons c rest ih =>
    rw [digitsFrom?] at read
    split at read
    · split at read
      · rename_i within
        exact ih within read
      · cases read
    · cases read

theorem lt_of_natural? {bound n : Nat} (some_number : 0 < bound) {text : List Char}
    (read : natural? bound text = some n) : n < bound := by
  unfold natural? at read
  split at read
  · cases read
  · exact lt_of_digitsFrom? some_number read

theorem lt_of_word? {n : Nat} {text : List Char} (read : word? text = some n) : n < wordBound := by
  unfold word? at read
  split at read
  · exact lt_of_natural? (by decide) read
  · exact lt_of_natural? (by decide) read

theorem natural?_decimal {bound n : Nat} (small : n < bound) :
    natural? bound (decimal n) = some n := by
  have value : Nat.ofDigitChars 10 (decimal n) 0 = n := Nat.ofDigitChars_ten_toDigits
  unfold natural?
  split
  · rename_i empty
    exact absurd empty Nat.toDigits_ne_nil
  · rw [digitsFrom?_of_digits (fun c inside => isDigit_of_mem_decimal inside)
      (by rwa [value]), value]

/-- **A word is read back from its decimal form.** -/
theorem word?_decimal {n : Nat} (small : n < wordBound) : word? (decimal n) = some n := by
  unfold word?
  split
  · rename_i digits eq
    have sign : '+' ∈ decimal n := eq ▸ List.mem_cons_self
    exact absurd (isDigit_of_mem_decimal sign) (by decide)
  · exact natural?_decimal small

theorem isBlankChar_of_isDigit {c : Char} (digit : c.isDigit = true) : isBlankChar c = false := by
  have range : 48 ≤ c.toNat ∧ c.toNat ≤ 57 := by
    simp only [Char.isDigit, ge_iff_le, Bool.and_eq_true, decide_eq_true_eq,
      UInt32.le_iff_toNat_le] at digit
    exact digit
  rw [isBlankChar, ← Bool.not_eq_true, List.any_eq_true]
  rintro ⟨⟨first, last⟩, inside, within⟩
  simp only [Bool.and_eq_true, decide_eq_true_eq] at within
  simp only [blankRanges, List.mem_cons, Prod.mk.injEq, List.not_mem_nil, or_false] at inside
  omega

theorem trim_decimal (n : Nat) : trim (decimal n) = decimal n :=
  trim_eq_self fun _ inside => isBlankChar_of_isDigit (isDigit_of_mem_decimal inside)

end FlatFile.Text
