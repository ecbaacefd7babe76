/-
  FlatFile/Proofs/Charset/Pages.lean
  ==================================
  **What becomes of a text that is written in a single-byte charset.**

  Each of these charsets reads a byte as one character, and reads back every character that
  it can write (`charOfByte_of_encodeChar?`).  One that it lacks is written as a reference,
  which is ASCII and stays a reference.  So a text comes back with its missing characters
  spelled out (`SingleByte.decode_encode`), and in UTF-8, which lacks none, as it was.
-/
import FlatFile.Charset.Encoder
import FlatFile.Proofs.Charset.Utf8
import FlatFile.Proofs.Text.Numerals

namespace FlatFile

/-! ### ASCII -/

namespace Text

/-- A text of ASCII characters. -/
def isAscii (text : List Char) : Bool := text.all fun c => c.toNat < 0x80

theorem isAscii_iff {text : List Char} : isAscii text = true ↔ ∀ c ∈ text, c.toNat < 0x80 := by
  simp [isAscii]

theorem isAscii_append {text more : List Char} :
    isAscii (text ++ more) = true ↔ isAscii text = true ∧ isAscii more = true := by
  simp [isAscii]

theorem isAscii_decimal (n : Nat) : isAscii (decimal n) = true := by
  rw [isAscii_iff]
  intro c inside
  have digit := isDigit_of_mem_decimal inside
  simp only [Char.isDigit, ge_iff_le, Bool.and_eq_true, decide_eq_true_eq] at digit
  have upper : c.toNat ≤ '9'.toNat := digit.2
  exact Nat.lt_of_le_of_lt upper (by decide)

end Text

/-! ### Spelling -/

namespace Charset

section

variable [MultibyteCodecs]

/-- A character, or the reference to one that the charset lacks. -/
def spelledChar (charset : Charset) (c : Char) : List Char :=
  if charset.represents c then [c] else characterReference c

/-- **A text as the charset can spell it.** -/
def spelled (charset : Charset) (text : List Char) : List Char := text.flatMap charset.spelledChar

variable {charset : Charset}

@[simp] theorem spelled_nil (charset : Charset) : charset.spelled [] = [] := rfl

theorem spelled_cons (charset : Charset) (c : Char) (text : List Char) :
    charset.spelled (c :: text) = charset.spelledChar c ++ charset.spelled text := rfl

theorem spelled_append (charset : Charset) (text more : List Char) :
    charset.spelled (text ++ more) = charset.spelled text ++ charset.spelled more :=
  List.flatMap_append

theorem spelled_eq_self {text : List Char} (known : ∀ c ∈ text, charset.represents c = true) :
    charset.spelled text = text := by
  induction text with
  | nil => rfl
  | cons c text ih =>
    rcases List.forall_mem_cons.mp known with ⟨here, others⟩
    rw [spelled_cons, spelledChar, if_pos here, ih others, List.singleton_append]

theorem spelled_utf8 (text : List Char) : Charset.utf8.spelled text = text :=
  spelled_eq_self fun _ _ => rfl

end

/-- The reference to a character is ASCII. -/
theorem isAscii_characterReference (c : Char) : Text.isAscii (characterReference c) = true := by
  have opening : Text.isAscii ['&', '#'] = true := by decide
  have closing : Text.isAscii [';'] = true := by decide
  rw [characterReference, Text.isAscii_append, Text.isAscii_append]
  exact ⟨⟨opening, Text.isAscii_decimal _⟩, closing⟩

end Charset

/-! ### Single bytes -/

/-- A charset that has one byte for each character. -/
inductive Charset.SingleByte : Charset → Prop where
  | userDefined : SingleByte .userDefined
  | page (codePage : CodePage) : SingleByte (.page codePage)

/-- The character of a byte in a single-byte charset. -/
def Charset.charOfByte (charset : Charset) (b : UInt8) : Char :=
  match charset with
  | .page codePage => codePage.decodeByte b
  | .userDefined => if b < 0x80 then Char.ofNat b.toNat else Char.ofNat (0xF700 + b.toNat)
  | _ => replacementChar

namespace DecoderState

variable [MultibyteCodecs]

theorem run_page (codePage : CodePage) (bytes : List UInt8) :
    (page codePage).run bytes =
      (bytes.map (Charset.page codePage).charOfByte, page codePage) := by
  induction bytes with
  | nil => rfl
  | cons b bytes ih => simp only [run, step, ih]; rfl

theorem run_userDefined (bytes : List UInt8) :
    userDefined.run bytes = (bytes.map Charset.userDefined.charOfByte, userDefined) := by
  induction bytes with
  | nil => rfl
  | cons b bytes ih => simp only [run, step, ih]; rfl

end DecoderState

/-- The byte of an ASCII character is in the lower half. -/
theorem lowerHalf_of_ascii {c : Char} (ascii : c.toNat < 0x80) :
    UInt8.ofNat c.toNat < 0x80 ∧ Char.ofNat (UInt8.ofNat c.toNat).toNat = c := by
  have number : (UInt8.ofNat c.toNat).toNat = c.toNat := toNat_byte (by omega)
  constructor
  · rw [UInt8.lt_iff_toNat_lt, number]
    exact ascii
  · rw [number, Char.ofNat_toNat]

/-- A byte of the upper half, by its number. -/
theorem upperHalf_of_lt {index : Nat} (small : index < 128) :
    ¬ UInt8.ofNat (0x80 + index) < 0x80 ∧ (UInt8.ofNat (0x80 + index)).toNat = 0x80 + index := by
  have number : (UInt8.ofNat (0x80 + index)).toNat = 0x80 + index := toNat_byte (by omega)
  refine ⟨?_, number⟩
  rw [UInt8.lt_iff_toNat_lt, number]
  exact Nat.not_lt.mpr (Nat.le_add_right _ _)

theorem CodePage.length_upperHalf (page : CodePage) : page.upperHalf.length = 128 := by
  cases page with
  | _ => rfl

theorem CodePage.decodeByte_of_encodeChar? {page : CodePage} {c : Char} {b : UInt8}
    (written : page.encodeChar? c = some b) : page.decodeByte b = c := by
  unfold encodeChar? at written
  split at written
  · rename_i ascii
    obtain ⟨lower, same⟩ := lowerHalf_of_ascii ascii
    cases written
    rw [decodeByte, if_pos lower, same]
  · split at written
    · cases written
    · rcases Option.map_eq_some_iff.mp written with ⟨index, found, rfl⟩
      rcases List.idxOf?_eq_some_iff.mp found with ⟨inside, same, -⟩
      obtain ⟨upper, number⟩ := upperHalf_of_lt (page.length_upperHalf ▸ inside)
      rw [decodeByte, if_neg upper, number, Nat.add_sub_cancel_left, List.getD_eq_getElem?_getD,
        List.getElem?_eq_getElem inside, same, Option.getD_some, Char.ofNat_toNat]

namespace Charset.SingleByte

variable [MultibyteCodecs] {charset : Charset}

theorem decode_eq (single : charset.SingleByte) (bytes : List UInt8) :
    charset.decode bytes = bytes.map charset.charOfByte := by
  cases single with
  | userDefined =>
    simp [decode, Decoder.feed, Decoder.new, Decoder.finish, DecoderState.initial,
      DecoderState.run_userDefined, DecoderState.finish, hasByteOrderMark, Decoder.dropMark]
  | page codePage =>
    simp [decode, Decoder.feed, Decoder.new, Decoder.finish, DecoderState.initial,
      DecoderState.run_page, DecoderState.finish, hasByteOrderMark, Decoder.dropMark]

omit [MultibyteCodecs] in
theorem output_eq (single : charset.SingleByte) : charset.output = charset := by
  cases single with
  | userDefined => rfl
  | page codePage => rfl

omit [MultibyteCodecs] in
theorem charOfByte_of_ascii (single : charset.SingleByte) {c : Char} (ascii : c.toNat < 0x80) :
    charset.charOfByte (UInt8.ofNat c.toNat) = c := by
  obtain ⟨lower, same⟩ := lowerHalf_of_ascii ascii
  cases single with
  | userDefined => rw [charOfByte, if_pos lower, same]
  | page codePage => rw [charOfByte, CodePage.decodeByte, if_pos lower, same]

theorem represents_ascii (single : charset.SingleByte) {c : Char} (ascii : c.toNat < 0x80) :
    charset.represents c = true := by
  cases single with
  | userDefined => simp [represents, output, encodeChar?, ascii]
  | page codePage => simp [represents, output, encodeChar?, CodePage.encodeChar?, ascii]

/-- **A character that can be written is read back.** -/
theorem charOfByte_of_encodeChar? (single : charset.SingleByte) {c : Char} {bytes : List UInt8}
    (written : charset.encodeChar? c = some bytes) : bytes.map charset.charOfByte = [c] := by
  cases single with
  | page codePage =>
    rcases Option.map_eq_some_iff.mp written with ⟨b, found, rfl⟩
    exact congrArg (fun c => [c]) (CodePage.decodeByte_of_encodeChar? found)
  | userDefined =>
    unfold encodeChar? at written
    dsimp only at written
    split at written
    · rename_i ascii
      cases written
      exact congrArg (fun c => [c]) (userDefined.charOfByte_of_ascii ascii)
    · split at written
      · rename_i range
        cases written
        obtain ⟨upper, number⟩ := @upperHalf_of_lt (c.toNat - 0xF780) (by omega)
        have index : 0x80 + (c.toNat - 0xF780) = c.toNat - 0xF700 := by omega
        rw [index] at upper number
        have whole : 0xF700 + (c.toNat - 0xF700) = c.toNat := by omega
        rw [List.map_singleton, charOfByte, if_neg upper, number, whole, Char.ofNat_toNat]
      · cases written

omit [MultibyteCodecs] in
theorem map_charOfByte_asciiBytes (single : charset.SingleByte) {text : List Char}
    (ascii : Text.isAscii text = true) :
    (asciiBytes text).map charset.charOfByte = text := by
  rw [Text.isAscii_iff] at ascii
  rw [asciiBytes, List.map_map]
  exact (List.map_congr_left fun c inside => single.charOfByte_of_ascii (ascii c inside)).trans
    (List.map_id text)

theorem map_charOfByte_encodeChar (single : charset.SingleByte) (c : Char) :
    (charset.encodeChar c).map charset.charOfByte = charset.spelledChar c := by
  rw [encodeChar, spelledChar, represents, single.output_eq]
  cases written : charset.encodeChar? c with
  | none =>
    rw [Option.getD_none, Option.isSome_none, if_neg Bool.false_ne_true]
    exact single.map_charOfByte_asciiBytes (isAscii_characterReference c)
  | some bytes =>
    rw [Option.getD_some, Option.isSome_some, if_pos rfl]
    exact single.charOfByte_of_encodeChar? written

theorem charwise (single : charset.SingleByte) : charset.Charwise := by
  cases single with
  | userDefined => exact fun _ => rfl
  | page codePage => exact fun _ => rfl

/-- **A text comes back as the charset can spell it.** -/
theorem decode_encode (single : charset.SingleByte) (text : List Char) :
    charset.decode (charset.encode text) = charset.spelled text := by
  rw [single.decode_eq, single.charwise]
  induction text with
  | nil => rfl
  | cons c text ih =>
    rw [List.flatMap_cons, List.map_append, ih, map_charOfByte_encodeChar single, spelled_cons]

end Charset.SingleByte

/-! ### Charsets of documents -/

namespace Charset

variable [MultibyteCodecs]

/-- A charset that writes each character by itself, has all of ASCII and brings every text back as
    it can spell it. -/
structure ReadsBack (charset : Charset) : Prop where
  charwise : charset.Charwise
  ascii : ∀ c : Char, c.toNat < 0x80 → charset.represents c = true
  decode_encode : ∀ text : List Char, text.head? ≠ some byteOrderMark →
    charset.decode (charset.encode text) = charset.spelled text

variable {charset : Charset}

theorem readsBack_utf8 : Charset.utf8.ReadsBack := by
  refine ⟨.utf8, fun _ _ => rfl, fun text unmarked => ?_⟩
  rw [decode_encode_utf8, spelled_utf8]
  cases text with
  | nil => rfl
  | cons c text => exact if_neg fun mark => unmarked (congrArg some mark)

theorem SingleByte.readsBack (single : charset.SingleByte) : charset.ReadsBack :=
  ⟨single.charwise, fun _ => single.represents_ascii, fun text _ => single.decode_encode text⟩

theorem ReadsBack.spelled_of_ascii (readsBack : charset.ReadsBack) {text : List Char}
    (ascii : Text.isAscii text = true) : charset.spelled text = text :=
  spelled_eq_self fun c inside => readsBack.ascii c (Text.isAscii_iff.mp ascii c inside)

theorem ReadsBack.spelled_markup (readsBack : charset.ReadsBack) (text : List Char) :
    charset.spelled ('<' :: text) = '<' :: charset.spelled text := by
  have bracket : charset.represents '<' = true := readsBack.ascii '<' (by decide)
  rw [spelled_cons, spelledChar, if_pos bracket, List.singleton_append]

end Charset

end FlatFile
