/-
  FlatFile/Proofs/Charset/Utf8.lean
  =================================
  **A text written in UTF-8 is read back.**

  The bytes of one character take an idle decoder back to where it was and give
  just that character (`run_utf8EncodeChar`).  So a whole text comes back as it
  was, apart from a byte order mark at its start (`decode_encode_utf8`).
-/
import FlatFile.Charset.Encoder
import FlatFile.Proofs.Charset.Blocks

namespace FlatFile

/-! ### Texts side by side -/

section

variable [MultibyteCodecs] {charset : Charset}

/-- A charset that writes each character by itself. -/
def Charset.Charwise (charset : Charset) : Prop :=
  ∀ text : List Char, charset.encode text = text.flatMap charset.encodeChar

namespace Charset.Charwise

theorem utf8 : Charset.utf8.Charwise := fun _ => rfl

theorem encode_append (charwise : charset.Charwise) (text more : List Char) :
    charset.encode (text ++ more) = charset.encode text ++ charset.encode more := by
  rw [charwise, charwise, charwise, List.flatMap_append]

theorem encode_flatten (charwise : charset.Charwise) (texts : List (List Char)) :
    (texts.map charset.encode).flatten = charset.encode texts.flatten := by
  induction texts with
  | nil => exact (charwise []).symm
  | cons text texts ih =>
    rw [List.map_cons, List.flatten_cons, ih, List.flatten_cons, charwise.encode_append]

theorem flatMap_encode (charwise : charset.Charwise) {α : Type} (text : α → List Char)
    (list : List α) :
    list.flatMap (fun a => charset.encode (text a)) = charset.encode (list.flatMap text) := by
  rw [List.flatMap_def, List.flatMap_def, ← charwise.encode_flatten, List.map_map]
  rfl

end Charset.Charwise

end

namespace Utf8State

/-! ### First bytes -/

theorem start_one {b : Nat} (range : b < 0x80) : start b = ([Char.ofNat b], .idle) := by
  rw [start, if_pos range]

theorem start_two {b : Nat} (low : 0xC2 ≤ b) (high : b ≤ 0xDF) :
    start b = ([], .partway 1 0x80 0xBF (b - 0xC0)) := by
  rw [start, if_neg (by omega), if_pos ⟨low, high⟩]

/-- The first of three bytes: the second one lies in the range that it allows unless the three
    are too many for their character or name half a pair of UTF-16. -/
theorem start_three (b second : Nat) (first : 0xE0 ≤ b ∧ b ≤ 0xEF)
    (tail : 0x80 ≤ second ∧ second ≤ 0xBF) (needed : b = 0xE0 → 0xA0 ≤ second)
    (whole : b = 0xED → second ≤ 0x9F) :
    ∃ low high, start b = ([], .partway 2 low high (b - 0xE0)) ∧ low ≤ second ∧ second ≤ high := by
  unfold start
  rw [if_neg (by omega), if_neg (by omega)]
  split
  · rename_i eq
    subst eq
    exact ⟨_, _, rfl, needed rfl, tail.2⟩
  · split
    · rename_i eq
      subst eq
      exact ⟨_, _, rfl, tail.1, whole rfl⟩
    · rw [if_pos (by omega)]
      exact ⟨_, _, rfl, tail.1, tail.2⟩

/-- The first of four bytes: the second one lies in the range that it allows unless the four
    are too many for their character or name none at all. -/
theorem start_four (b second : Nat) (first : 0xF0 ≤ b ∧ b ≤ 0xF4)
    (tail : 0x80 ≤ second ∧ second ≤ 0xBF) (needed : b = 0xF0 → 0x90 ≤ second)
    (inside : b = 0xF4 → second ≤ 0x8F) :
    ∃ low high, start b = ([], .partway 3 low high (b - 0xF0)) ∧ low ≤ second ∧ second ≤ high := by
  unfold start
  rw [if_neg (by omega), if_neg (by omega), if_neg (by omega), if_neg (by omega),
    if_neg (by omega)]
  split
  · rename_i eq
    subst eq
    exact ⟨_, _, rfl, needed rfl, tail.2⟩
  · split
    · rename_i eq
      subst eq
      exact ⟨_, _, rfl, tail.1, inside rfl⟩
    · rw [if_pos (by omega)]
      exact ⟨_, _, rfl, tail.1, tail.2⟩

/-! ### Further bytes -/

theorem step_last {low high bits : Nat} {b : UInt8} (inside : low ≤ b.toNat ∧ b.toNat ≤ high) :
    step (.partway 1 low high bits) b = ([Char.ofNat (64 * bits + (b.toNat - 0x80))], .idle) := by
  rw [step, if_pos inside, if_pos (Nat.le_refl 1)]

theorem step_more {needed low high bits : Nat} {b : UInt8} (more : 1 < needed)
    (inside : low ≤ b.toNat ∧ b.toNat ≤ high) :
    step (.partway needed low high bits) b =
      ([], .partway (needed - 1) 0x80 0xBF (64 * bits + (b.toNat - 0x80))) := by
  rw [step, if_pos inside, if_neg (by omega)]

end Utf8State

/-! ### Characters and texts -/

theorem toNat_byte {n : Nat} (range : n < 256) : (UInt8.ofNat n).toNat = n := by
  simpa using Nat.mod_eq_of_lt range

theorem toNat_cases (c : Char) :
    c.toNat < 0xD800 ∨ (0xDFFF < c.toNat ∧ c.toNat < 0x110000) := c.valid

variable [MultibyteCodecs]

namespace DecoderState

theorem run_utf8_cons (state : Utf8State) (b : UInt8) (rest : List UInt8) :
    (utf8 state).run (b :: rest) =
      ((state.step b).1 ++ ((utf8 (state.step b).2).run rest).1,
        ((utf8 (state.step b).2).run rest).2) := rfl

theorem run_utf8_start {b : UInt8} {n : Nat} (number : b.toNat = n) (rest : List UInt8) :
    (utf8 .idle).run (b :: rest) =
      ((Utf8State.start n).1 ++ ((utf8 (Utf8State.start n).2).run rest).1,
        ((utf8 (Utf8State.start n).2).run rest).2) := by
  rw [run_utf8_cons, Utf8State.step, number]

theorem run_utf8_last {low high bits n : Nat} {b : UInt8} (number : b.toNat = n)
    (inside : low ≤ n ∧ n ≤ high) (rest : List UInt8) :
    (utf8 (.partway 1 low high bits)).run (b :: rest) =
      (Char.ofNat (64 * bits + (n - 0x80)) :: ((utf8 .idle).run rest).1,
        ((utf8 .idle).run rest).2) := by
  subst number
  rw [run_utf8_cons, Utf8State.step_last inside]
  rfl

theorem run_utf8_more {needed low high bits n : Nat} {b : UInt8} (more : 1 < needed)
    (number : b.toNat = n) (inside : low ≤ n ∧ n ≤ high) (rest : List UInt8) :
    (utf8 (.partway needed low high bits)).run (b :: rest) =
      (utf8 (.partway (needed - 1) 0x80 0xBF (64 * bits + (n - 0x80)))).run rest := by
  subst number
  rw [run_utf8_cons, Utf8State.step_more more inside]
  rfl

/-- **The bytes of a character are read as that character.** -/
theorem run_utf8EncodeChar (c : Char) (rest : List UInt8) :
    (utf8 .idle).run (String.utf8EncodeChar c ++ rest) =
      (c :: ((utf8 .idle).run rest).1, ((utf8 .idle).run rest).2) := by
  have valid := toNat_cases c
  have self : Char.ofNat c.toNat = c := Char.ofNat_toNat c
  have value : c.val.toNat = c.toNat := rfl
  generalize c.toNat = v at valid self value
  rw [String.utf8EncodeChar, value]
  -- Every byte after the first holds six bits of the number; `omega` puts them together again.
  by_cases one : v ≤ 0x7F
  · rw [if_pos one]
    simp only [List.cons_append, List.nil_append]
    rw [run_utf8_start (toNat_byte (by omega)), Utf8State.start_one (by omega), self]
    rfl
  by_cases two : v ≤ 0x7FF
  · rw [if_neg one, if_pos two]
    simp only [List.cons_append, List.nil_append]
    rw [run_utf8_start (toNat_byte (by omega)), Utf8State.start_two (by omega) (by omega),
      run_utf8_last (toNat_byte (by omega)) (by omega),
      show 64 * (v / 64 % 0x20 + 0xC0 - 0xC0) + (v % 0x40 + 0x80 - 0x80) = v by omega, self]
    rfl
  by_cases three : v ≤ 0xFFFF
  · rw [if_neg one, if_neg two, if_pos three]
    simp only [List.cons_append, List.nil_append]
    obtain ⟨low, high, start, inside⟩ := Utf8State.start_three (v / 4096 % 0x10 + 0xE0)
      (v / 64 % 0x40 + 0x80) (by omega) (by omega) (by omega) (by omega)
    rw [run_utf8_start (toNat_byte (by omega)), start,
      run_utf8_more (by omega) (toNat_byte (by omega)) inside,
      run_utf8_last (toNat_byte (by omega)) (by omega),
      show 64 * (64 * (v / 4096 % 0x10 + 0xE0 - 0xE0) + (v / 64 % 0x40 + 0x80 - 0x80))
        + (v % 0x40 + 0x80 - 0x80) = v by omega, self]
    rfl
  · rw [if_neg one, if_neg two, if_neg three]
    simp only [List.cons_append, List.nil_append]
    obtain ⟨low, high, start, inside⟩ := Utf8State.start_four (v / 262144 % 0x08 + 0xF0)
      (v / 4096 % 0x40 + 0x80) (by omega) (by omega) (by omega) (by omega)
    rw [run_utf8_start (toNat_byte (by omega)), start,
      run_utf8_more (by omega) (toNat_byte (by omega)) inside,
      run_utf8_more (by omega) (toNat_byte (by omega)) (by omega),
      run_utf8_last (toNat_byte (by omega)) (by omega),
      show 64 * (64 * (64 * (v / 262144 % 0x08 + 0xF0 - 0xF0) + (v / 4096 % 0x40 + 0x80 - 0x80))
        + (v / 64 % 0x40 + 0x80 - 0x80)) + (v % 0x40 + 0x80 - 0x80) = v by omega, self]
    rfl

theorem run_encode (text : List Char) :
    (utf8 .idle).run (Charset.utf8.encode text) = (text, utf8 .idle) := by
  induction text with
  | nil => rfl
  | cons c text ih =>
    have split : Charset.utf8.encode (c :: text) =
        String.utf8EncodeChar c ++ Charset.utf8.encode text := rfl
    rw [split, run_utf8EncodeChar, ih]

end DecoderState

/-- **A text comes back from its bytes**, without the byte order mark it may begin with. -/
theorem Charset.decode_encode_utf8 (text : List Char) :
    Charset.utf8.decode (Charset.utf8.encode text) = Decoder.dropMark true text := by
  simp [decode, Decoder.feed, Decoder.new, Decoder.finish, DecoderState.initial,
    DecoderState.run_encode, DecoderState.finish, Utf8State.finish, hasByteOrderMark,
    Decoder.dropMark]

end FlatFile
