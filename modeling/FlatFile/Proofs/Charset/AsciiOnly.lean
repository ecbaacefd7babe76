/-
  FlatFile/Proofs/Charset/AsciiOnly.lean
  ======================================
  **The codecs that know the bytes of ASCII do what a multibyte set promises.**

  Whatever they write is a text in ASCII that switches nothing (`direct_asciiText`), and at
  the start such a text reads as itself and leads back there (`run_asciiBytes`).  So what
  was written is read back character by character (`lawful`): mostly as it was, else as a
  reference, or as a backslash or a tilde in the two sets that have others in their place
  (`eq_of_asciiFor?`).
-/
import FlatFile.Charset.AsciiOnly
import FlatFile.Proofs.Charset.Output

namespace FlatFile.MultibyteSet

open DecoderState

variable {set : MultibyteSet} {c d : Char}

/-! ### What is written -/

theorem asciiFor?_of_ascii (ascii : c.toNat < 0x80) (plain : set.switches c = false) :
    set.asciiFor? c = some c := by
  unfold asciiFor?
  rw [if_pos ascii, plain]
  rfl

/-- A character is written as itself, or as one of two others. -/
theorem eq_of_asciiFor? (found : set.asciiFor? c = some d) :
    d = c ∧ c.toNat < 0x80 ∧ set.switches c = false
      ∨ (d = '\\' ∨ d = '~') ∧ set ≠ .iso2022Jp := by
  unfold asciiFor? at found
  split at found
  · rename_i ascii
    split at found
    · cases found
    · rename_i plain
      cases found
      exact .inl ⟨rfl, ascii, Bool.eq_false_iff.mpr plain⟩
  · split at found
    · rename_i japanese
      have apart : set ≠ .iso2022Jp := by
        rcases japanese with rfl | rfl
        · decide
        · decide
      split at found
      · cases found
        exact .inr ⟨.inl rfl, apart⟩
      · cases found
        exact .inr ⟨.inr rfl, apart⟩
      · cases found
    · cases found

/-- Where nothing is switched by escape sequences, no character switches anything. -/
theorem switches_of_ne (apart : set ≠ .iso2022Jp) (c : Char) : set.switches c = false := by
  rw [switches, beq_eq_false_iff_ne.mpr apart, Bool.false_and]

theorem direct_asciiFor? (found : set.asciiFor? c = some d) :
    d.toNat < 0x80 ∧ set.switches d = false := by
  rcases eq_of_asciiFor? found with ⟨rfl, ascii, plain⟩ | ⟨rfl | rfl, apart⟩
  · exact ⟨ascii, plain⟩
  · exact ⟨by decide, switches_of_ne apart _⟩
  · exact ⟨by decide, switches_of_ne apart _⟩

/-- The text of a reference switches nothing. -/
theorem isShift_of_mem_characterReference (inside : d ∈ Charset.characterReference c) :
    isShift d = false := by
  rcases List.mem_append.mp inside with inside | inside
  · rcases List.mem_append.mp inside with inside | inside
    · simp only [List.mem_cons, List.not_mem_nil, or_false] at inside
      rcases inside with rfl | rfl
      · decide
      · decide
    · have other (control : Char) (no : control.isDigit = false) : d ≠ control := by
        rintro rfl
        rw [Text.isDigit_of_mem_decimal inside] at no
        cases no
      simp [isShift, other]
  · rw [List.mem_singleton.mp inside]
    decide

/-- **Whatever is written is ASCII and switches nothing.** -/
theorem direct_asciiText (set : MultibyteSet) (c : Char) :
    ∀ d ∈ set.asciiText c, d.toNat < 0x80 ∧ set.switches d = false := by
  unfold asciiText
  split
  · rename_i found
    exact List.forall_mem_singleton.mpr (direct_asciiFor? found)
  · intro d inside
    have ascii := Text.isAscii_iff.mp (Charset.isAscii_characterReference _) d inside
    exact ⟨ascii, set.switches_of_plain (isShift_of_mem_characterReference inside)⟩

/-! ### What is read -/

theorem step_switching {c : Char} (ascii : c.toNat < 0x80) (plain : isShift c = false) :
    SwitchingState.initial.step (UInt8.ofNat c.toNat) = ([c], .initial) := by
  have number : (UInt8.ofNat c.toNat).toNat = c.toNat := toNat_byte (by omega)
  have other (n : Nat) (shift : Char.ofNat n = '\x0e' ∨ Char.ofNat n = '\x0f' ∨
      Char.ofNat n = '\x1b') : c.toNat ≠ n := by
    rintro rfl
    rw [Char.ofNat_toNat] at shift
    rcases shift with rfl | rfl | rfl
    · cases plain
    · cases plain
    · cases plain
  have escape : c.toNat ≠ 0x1B := other _ (.inr (.inr rfl))
  have out : c.toNat ≠ 0x0E := other _ (.inl rfl)
  have back : c.toNat ≠ 0x0F := other _ (.inr (.inl rfl))
  simp [SwitchingState.step, SwitchingState.initial, SwitchingState.stepPlain,
    CharacterSet.decodeByte, number, escape, out, back, ascii]

theorem step_bytewise (ascii : c.toNat < 0x80) :
    set.bytewise.step set.bytewise.initial (UInt8.ofNat c.toNat) = ([c], set.bytewise.initial) := by
  obtain ⟨lower, same⟩ := lowerHalf_of_ascii ascii
  simp only [bytewise, if_pos lower, same]

/-- At the start nothing is pending, in no set. -/
theorem resting_initial (set : MultibyteSet) : set.Resting set.codec.initial := by
  constructor
  · cases set with
    | _ => rfl
  · intro c ascii plain
    cases set with
    | iso2022Jp =>
      have read := step_switching ascii plain
      have start : SwitchingState.ofMultibyte SwitchingState.initial.toMultibyte = .initial := rfl
      simp only [codec, MultibyteCodecs.codec, switching, start, read]
    | _ => exact step_bytewise ascii

theorem run_asciiBytes (set : MultibyteSet) {text : List Char}
    (direct : ∀ c ∈ text, c.toNat < 0x80 ∧ set.switches c = false) :
    (initial (.multibyte set)).run (Charset.asciiBytes text) =
      (text, initial (.multibyte set)) := by
  induction text with
  | nil => rfl
  | cons c text ih =>
    rcases List.forall_mem_cons.mp direct with ⟨⟨ascii, plain⟩, others⟩
    have read := ih others
    rw [Charset.asciiBytes] at read
    rw [Charset.asciiBytes, List.map_cons, initial,
      set.resting_initial.run_cons ascii plain, read]
    rfl

/-! ### The laws -/

theorem encode_eq (set : MultibyteSet) (text : List Char) :
    set.codec.encode text = Charset.asciiBytes (text.flatMap set.asciiText) := by
  cases set with
  | _ => rfl

theorem has_eq (set : MultibyteSet) (c : Char) : set.codec.has c = (set.asciiFor? c).isSome := by
  cases set with
  | _ => rfl

theorem run_encode (set : MultibyteSet) (text : List Char) :
    (initial (.multibyte set)).run (set.codec.encode text) =
      (text.flatMap set.asciiText, initial (.multibyte set)) := by
  rw [encode_eq]
  apply run_asciiBytes
  intro d inside
  rcases List.mem_flatMap.mp inside with ⟨c, -, inside⟩
  exact set.direct_asciiText c d inside

theorem readBack_eq (set : MultibyteSet) (c : Char) : set.readBack c = set.asciiText c := by
  rw [readBack, run_encode, List.flatMap_singleton]

/-- **These codecs do what every multibyte set promises.** -/
theorem lawful (set : MultibyteSet) : set.Lawful where
  resting_initial := set.resting_initial
  has_ascii := by
    intro c ascii plain
    rw [has_eq, asciiFor?_of_ascii ascii plain]
    rfl
  encode_nil := by
    rw [encode_eq]
    rfl
  encode_ascii := by
    intro c text ascii plain
    rw [encode_eq, encode_eq, List.flatMap_cons, asciiText, asciiFor?_of_ascii ascii plain]
    rfl
  encode_append := by
    intro _ text more
    rw [encode_eq, encode_eq, encode_eq, List.flatMap_append, Charset.asciiBytes, List.map_append]
    rfl
  run_encode := by
    intro text
    refine ⟨set.codec.initial, set.resting_initial, fun _ => rfl, ?_⟩
    rw [run_encode, funext set.readBack_eq]
    rfl
  readBack_of_has := by
    intro c known
    rw [has_eq] at known
    obtain ⟨d, found⟩ := Option.isSome_iff_exists.mp known
    refine ⟨d, by rw [readBack_eq, asciiText, found], ?_⟩
    rcases eq_of_asciiFor? found with ⟨same, -⟩ | ⟨other, -⟩
    · exact .inl same
    · exact .inr (.inr other)
  readBack_of_lacking := by
    intro c lacking
    rw [has_eq, Option.isSome_eq_false_iff, Option.isNone_iff_eq_none] at lacking
    rw [readBack_eq, asciiText, lacking]

/-- Without escape sequences each character is written by itself. -/
theorem charwise (apart : set ≠ .iso2022Jp) : (Charset.multibyte set).Charwise := by
  intro text
  have each (c : Char) :
      (Charset.multibyte set).encodeChar c = Charset.asciiBytes (set.asciiText c) := by
    have own : (Charset.multibyte set).encodeChar c =
        (if set.codec.has c then some (set.codec.encode [c]) else none).getD
          (Charset.asciiBytes (Charset.characterReference c)) := rfl
    rw [own, has_eq, encode_eq, asciiText]
    cases found : set.asciiFor? c with
    | some d => simp [asciiText, found]
    | none => simp [referenceChar, switches_of_ne apart]
  have whole : (Charset.multibyte set).encode text = set.codec.encode text := rfl
  rw [whole, encode_eq, funext each, Charset.asciiBytes, List.map_flatMap]
  rfl

end FlatFile.MultibyteSet
