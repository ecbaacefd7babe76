/-
  FlatFile/Proofs/Value/Number.lean
  =================================
  **The normal form of a number.**

  An integer has many numerals: with zeros in front, with a plus sign or without one
  (`Text.Denotes`).  The numerals that are read are those of the integers that 128 bits
  hold, however long they are (`Text.wideInteger?_eq_some_iff`), and the one that is written
  is the decimal form of the integer (`Text.denotes_signedDecimal`).

  So a number rule does one of four things (`NumberRule.Normalises`), and exactly the one
  that the text asks for (`NumberRule.normalises_iff`).  Its result is a numeral in decimal
  form, nothing, or the text itself, and each of them is its own normal form.
-/
import FlatFile.Proofs.Value.Ready

namespace FlatFile

namespace Text

/-! ### Numerals -/

/-- At least one ASCII digit, and the number that the digits write. -/
structure DigitsOf (digits : List Char) (n : Nat) : Prop where
  some_digit : digits ≠ []
  all_digits : ∀ c ∈ digits, c.isDigit = true
  value : Nat.ofDigitChars 10 digits 0 = n

/-- **A numeral of an integer**: digits, and a sign in front of them or none. -/
inductive Denotes : List Char → Int → Prop where
  | unsigned {digits : List Char} {n : Nat} (written : DigitsOf digits n) : Denotes digits n
  | positive {digits : List Char} {n : Nat} (written : DigitsOf digits n) :
      Denotes ('+' :: digits) n
  | negative {digits : List Char} {n : Nat} (written : DigitsOf digits n) :
      Denotes ('-' :: digits) (-n)

/-- An integer that 128 bits hold in two's complement. -/
def IsWide (value : Int) : Prop := -Int.pow 2 127 ≤ value ∧ value ≤ Int.pow 2 127 - 1

instance (value : Int) : Decidable (IsWide value) := inferInstanceAs (Decidable (_ ∧ _))

theorem isDigit_of_digitValue? {c : Char} {d : Nat} (read : digitValue? c = some d) :
    c.isDigit = true ∧ c.toNat - '0'.toNat = d := by
  unfold digitValue? at read
  split at read
  · rename_i range
    refine ⟨?_, Option.some.inj read⟩
    simp only [Char.isDigit, ge_iff_le, Bool.and_eq_true, decide_eq_true_eq]
    exact range
  · cases read

theorem digits_of_digitsFrom? {bound sofar n : Nat} {text : List Char}
    (read : digitsFrom? bound sofar text = some n) :
    (∀ c ∈ text, c.isDigit = true) ∧ Nat.ofDigitChars 10 text sofar = n := by
  induction text generalizing sofar with
  | nil => exact ⟨nofun, Nat.ofDigitChars_nil.trans (Option.some.inj read)⟩
  | cons c rest ih =>
    rw [digitsFrom?] at read
    split at read
    · rename_i d value
      split at read
      · obtain ⟨digit, rfl⟩ := isDigit_of_digitValue? value
        obtain ⟨others, total⟩ := ih read
        exact ⟨List.forall_mem_cons.mpr ⟨digit, others⟩, Nat.ofDigitChars_cons.trans total⟩
      · cases read
    · cases read

/-- **Exactly the digits of the numbers below a bound are read**, zeros in front included. -/
theorem natural?_eq_some_iff {bound n : Nat} (some_number : 0 < bound) {text : List Char} :
    natural? bound text = some n ↔ DigitsOf text n ∧ n < bound := by
  constructor
  · intro read
    have below := lt_of_natural? some_number read
    cases text with
    | nil => cases read
    | cons c rest =>
      obtain ⟨digits, value⟩ := digits_of_digitsFrom? read
      exact ⟨⟨List.cons_ne_nil _ _, digits, value⟩, below⟩
  · rintro ⟨⟨some_digit, digits, rfl⟩, below⟩
    cases text with
    | nil => exact absurd rfl some_digit
    | cons c rest => exact digitsFrom?_of_digits digits below

theorem not_digitsOf_of_sign {sign : Char} (mark : sign.isDigit = false) {digits : List Char}
    {n : Nat} : ¬ DigitsOf (sign :: digits) n := by
  intro written
  have digit := written.all_digits sign List.mem_cons_self
  rw [mark] at digit
  cases digit

theorem denotes_negative_iff {digits : List Char} {value : Int} :
    Denotes ('-' :: digits) value ↔ ∃ n : Nat, DigitsOf digits n ∧ -(n : Int) = value := by
  constructor
  · intro denotes
    cases denotes with
    | unsigned written => exact absurd written (not_digitsOf_of_sign rfl)
    | negative written => exact ⟨_, written, rfl⟩
  · rintro ⟨n, written, rfl⟩
    exact .negative written

theorem denotes_positive_iff {digits : List Char} {value : Int} :
    Denotes ('+' :: digits) value ↔ ∃ n : Nat, DigitsOf digits n ∧ (n : Int) = value := by
  constructor
  · intro denotes
    cases denotes with
    | unsigned written => exact absurd written (not_digitsOf_of_sign rfl)
    | positive written => exact ⟨_, written, rfl⟩
  · rintro ⟨n, written, rfl⟩
    exact .positive written

theorem denotes_unsigned_iff {text : List Char} (minus : ∀ digits, text ≠ '-' :: digits)
    (plus : ∀ digits, text ≠ '+' :: digits) {value : Int} :
    Denotes text value ↔ ∃ n : Nat, DigitsOf text n ∧ (n : Int) = value := by
  constructor
  · intro denotes
    cases denotes with
    | unsigned written => exact ⟨_, written, rfl⟩
    | positive => exact absurd rfl (plus _)
    | negative => exact absurd rfl (minus _)
  · rintro ⟨n, written, rfl⟩
    exact .unsigned written

theorem wideBound_eq : (wideBound : Int) = Int.pow 2 127 := rfl

/-- Digits without a minus sign are read if the number that they write is wide. -/
theorem natural?_wide_iff {digits : List Char} {value : Int} :
    (natural? wideBound digits).map Int.ofNat = some value ↔
      (∃ n : Nat, DigitsOf digits n ∧ (n : Int) = value) ∧ IsWide value := by
  have below {n : Nat} : natural? wideBound digits = some n ↔ DigitsOf digits n ∧ n < wideBound :=
    natural?_eq_some_iff (by decide)
  rw [IsWide, ← wideBound_eq]
  constructor
  · intro found
    obtain ⟨n, read, rfl⟩ := Option.map_eq_some_iff.mp found
    obtain ⟨written, small⟩ := below.mp read
    refine ⟨⟨n, written, rfl⟩, ?_, ?_⟩
    · change -(wideBound : Int) ≤ (n : Int)
      omega
    · change (n : Int) ≤ wideBound - 1
      omega
  · rintro ⟨⟨n, written, rfl⟩, -, high⟩
    rw [below.mpr ⟨written, by omega⟩]
    rfl

/-- **Exactly the numerals of wide integers are read**; the least of these has no counterpart
    without the sign. -/
theorem wideInteger?_eq_some_iff {text : List Char} {value : Int} :
    wideInteger? text = some value ↔ Denotes text value ∧ IsWide value := by
  unfold wideInteger?
  split
  · rename_i digits
    have least {n : Nat} :
        natural? (wideBound + 1) digits = some n ↔ DigitsOf digits n ∧ n < wideBound + 1 :=
      natural?_eq_some_iff (Nat.succ_pos _)
    have positive : 0 < wideBound := by decide
    rw [denotes_negative_iff, IsWide, ← wideBound_eq]
    constructor
    · intro found
      obtain ⟨_, number, rfl⟩ := Option.map_eq_some_iff.mp found
      obtain ⟨n, read, same⟩ := Option.bind_eq_some_iff.mp number
      cases same
      obtain ⟨written, small⟩ := least.mp read
      exact ⟨⟨n, written, rfl⟩, by omega, by omega⟩
    · rintro ⟨⟨n, written, rfl⟩, low, -⟩
      rw [least.mpr ⟨written, by omega⟩]
      rfl
  · rw [denotes_positive_iff]
    exact natural?_wide_iff
  · rename_i minus plus
    rw [denotes_unsigned_iff minus plus]
    exact natural?_wide_iff

/-! ### The decimal form -/

theorem digitsOf_decimal (n : Nat) : DigitsOf (decimal n) n where
  some_digit := Nat.toDigits_ne_nil
  all_digits _ inside := isDigit_of_mem_decimal inside
  value := Nat.ofDigitChars_ten_toDigits

/-- **The decimal form of an integer denotes it.** -/
theorem denotes_signedDecimal (value : Int) : Denotes (signedDecimal value) value := by
  cases value with
  | ofNat n => exact .unsigned (digitsOf_decimal n)
  | negSucc n => exact .negative (digitsOf_decimal (n + 1))

theorem signedDecimal_eq (value : Int) : signedDecimal value = (toString value).toList := by
  cases value with
  | ofNat n =>
    change decimal n = (toString n).toList
    rw [Nat.toString_eq_ofList_toDigits, String.toList_ofList]
    rfl
  | negSucc n =>
    change '-' :: decimal (n + 1) = ("-" ++ toString (n + 1)).toList
    rw [String.toList_append, Nat.toString_eq_ofList_toDigits, String.toList_ofList,
      String.toList_ofList]
    rfl

theorem trim_signedDecimal (value : Int) : trim (signedDecimal value) = signedDecimal value := by
  cases value with
  | ofNat n => exact trim_decimal n
  | negSucc n =>
    apply trim_eq_self
    intro c inside
    rcases List.mem_cons.mp inside with rfl | digit
    · decide
    · exact isBlankChar_of_isDigit (isDigit_of_mem_decimal digit)

theorem not_denotes_nil {value : Int} : ¬ Denotes [] value := by
  intro denotes
  cases denotes with
  | unsigned written => exact written.some_digit rfl

end Text

/-! ### Number rules -/

namespace NumberRule

open Text

/-- **What a number rule makes of a text.** -/
inductive Normalises (rule : NumberRule) (text : List Char) : List Char → Prop where
  /-- A blank text is kept, or dropped if the rule says so. -/
  | blank (blank : isBlank text = true) :
      Normalises rule text (if rule.blankToEmpty then [] else text)
  /-- Zero, whatever its numeral, is dropped if the rule says so. -/
  | zero (denotes : Denotes (trim text) 0) (dropped : rule.zeroToEmpty = true) :
      Normalises rule text []
  /-- Any other integer gets its decimal form. -/
  | number {value : Int} (denotes : Denotes (trim text) value) (wide : IsWide value)
      (kept : ¬ (value = 0 ∧ rule.zeroToEmpty = true)) :
      Normalises rule text (toString value).toList
  /-- A text that is neither blank nor such a number is kept as it is. -/
  | other (ink : isBlank text = false)
      (no_number : ∀ value, Denotes (trim text) value → ¬ IsWide value) :
      Normalises rule text text

variable {rule : NumberRule} {text result : List Char}

theorem normalises_toDocument (rule : NumberRule) (text : List Char) :
    rule.Normalises text (rule.toDocument text) := by
  unfold toDocument
  dsimp only
  split
  · rename_i nothing
    exact .blank (trim_eq_nil_iff.mp (List.isEmpty_iff.mp nothing))
  · rename_i something
    have ink : isBlank text = false := by
      rw [← Bool.not_eq_true, ← trim_eq_nil_iff, ← List.isEmpty_iff]
      exact something
    split
    · rename_i value read
      obtain ⟨denotes, wide⟩ := wideInteger?_eq_some_iff.mp read
      split
      · rename_i zero
        exact .zero (zero.1 ▸ denotes) zero.2
      · rename_i kept
        rw [signedDecimal_eq]
        exact .number denotes wide kept
    · rename_i unread
      refine .other ink ?_
      intro value denotes wide
      rw [wideInteger?_eq_some_iff.mpr ⟨denotes, wide⟩] at unread
      cases unread

theorem toDocument_of_blank (blank : isBlank text = true) :
    rule.toDocument text = if rule.blankToEmpty then [] else text := by
  rw [toDocument, trim_eq_nil_iff.mpr blank]
  rfl

theorem toDocument_of_denotes {value : Int} (denotes : Denotes (trim text) value)
    (wide : IsWide value) :
    rule.toDocument text =
      if value = 0 ∧ rule.zeroToEmpty then [] else signedDecimal value := by
  have some_numeral : (trim text).isEmpty = false := by
    rw [List.isEmpty_eq_false_iff]
    intro nothing
    rw [nothing] at denotes
    exact not_denotes_nil denotes
  rw [toDocument, some_numeral, wideInteger?_eq_some_iff.mpr ⟨denotes, wide⟩]
  rfl

/-- **A text has one normal form under a rule**, and the rule finds it. -/
theorem normalises_iff : rule.Normalises text result ↔ rule.toDocument text = result := by
  constructor
  · intro normalises
    cases normalises with
    | blank blank => exact toDocument_of_blank blank
    | zero denotes dropped =>
      rw [toDocument_of_denotes denotes (by decide), if_pos ⟨rfl, dropped⟩]
    | number denotes wide kept =>
      rw [toDocument_of_denotes denotes wide, if_neg kept, signedDecimal_eq]
    | other ink no_number =>
      have normalises := normalises_toDocument rule text
      generalize rule.toDocument text = found at normalises
      cases normalises with
      | blank blank =>
        rw [ink] at blank
        cases blank
      | zero denotes => exact absurd (by decide) (no_number 0 denotes)
      | number denotes wide => exact absurd wide (no_number _ denotes)
      | other => rfl
  · rintro rfl
    exact normalises_toDocument rule text

theorem toDocument_nil (rule : NumberRule) : rule.toDocument [] = [] := by
  rw [toDocument_of_blank rfl]
  exact ite_self []

/-- A normal form is its own normal form. -/
theorem toDocument_toDocument (rule : NumberRule) (text : List Char) :
    rule.toDocument (rule.toDocument text) = rule.toDocument text := by
  have normalises := normalises_toDocument rule text
  generalize same : rule.toDocument text = result at normalises
  cases normalises with
  | blank blank =>
    split
    · exact toDocument_nil rule
    · rename_i kept
      rw [toDocument_of_blank blank, if_neg kept]
  | zero => exact toDocument_nil rule
  | number denotes wide kept =>
    rename_i value
    have trimmed : Denotes (trim (toString value).toList) value := by
      rw [← signedDecimal_eq, trim_signedDecimal]
      exact denotes_signedDecimal value
    rw [toDocument_of_denotes trimmed wide, if_neg kept, signedDecimal_eq]
  | other => exact same

/-- **Numbers are brought to a normal form exactly**: each text to the one that its integer, its
    blanks and the rule call for, which denotes the same integer, and which stays as it is when it
    is normalised again. -/
theorem exact_normal_form (rule : NumberRule) (text : List Char) :
    (∀ result, rule.Normalises text result ↔ (Converter.number rule).toDocument text = result)
      ∧ (∀ value : Int, Text.Denotes (toString value).toList value)
      ∧ (Converter.number rule).toDocument ((Converter.number rule).toDocument text) =
        (Converter.number rule).toDocument text := by
  refine ⟨fun result => normalises_iff, ?_, toDocument_toDocument rule text⟩
  intro value
  rw [← signedDecimal_eq]
  exact denotes_signedDecimal value

/-- The least wide integer with zeros in front keeps its value; its counterpart is no wide integer
    and stays as it is, blanks included. -/
example :
    NumberRule.toDocument {} " -000170141183460469231731687303715884105728\n".toList =
        "-170141183460469231731687303715884105728".toList
      ∧ NumberRule.toDocument {} " +170141183460469231731687303715884105728\n".toList =
        " +170141183460469231731687303715884105728\n".toList := by
  decide +kernel

end NumberRule

end FlatFile
