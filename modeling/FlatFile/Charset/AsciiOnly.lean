/-
  FlatFile/Charset/AsciiOnly.lean
  ===============================
  **The multibyte sets as far as ASCII goes.**

  These are the codecs that the program runs with: of every set they know the bytes
  of ASCII, and of ISO-2022-JP the escape sequences as well.  A byte outside of
  ASCII reads as U+FFFD, and a character that takes such bytes is written as a
  reference, as if the set lacked it.

  The Japanese sets without escape sequences take the yen sign for a backslash and
  the overline for a tilde, as their encoders do.  A control that would switch the
  character set of ISO-2022-JP is written as a reference to U+FFFD.
-/
import FlatFile.Charset.Encoder
import FlatFile.Charset.Switching

namespace FlatFile

namespace MultibyteSet

/-- The character of ASCII that a set writes for a character, if there is one. -/
def asciiFor? (set : MultibyteSet) (c : Char) : Option Char :=
  if c.toNat < 0x80 then if set.switches c then none else some c
  else if set = .eucJp ∨ set = .shiftJis then
    match c with
    | '\u00A5' => some '\\'
    | '\u203E' => some '~'
    | _ => none
  else none

/-- The text in ASCII that stands for a character: another one, or a reference. -/
def asciiText (set : MultibyteSet) (c : Char) : List Char :=
  match set.asciiFor? c with
  | some d => [d]
  | none => Charset.characterReference (set.referenceChar c)

theorem asciiText_ne_nil (set : MultibyteSet) (c : Char) : set.asciiText c ≠ [] := by
  unfold asciiText
  split
  · exact List.cons_ne_nil _ _
  · exact List.cons_ne_nil _ _

def encodeAscii (set : MultibyteSet) (text : List Char) : List UInt8 :=
  Charset.asciiBytes (text.flatMap set.asciiText)

theorem encodeAscii_ne_nil (set : MultibyteSet) {text : List Char} (nonempty : text ≠ []) :
    set.encodeAscii text ≠ [] := by
  cases text with
  | nil => exact absurd rfl nonempty
  | cons c text =>
    rw [encodeAscii, Charset.asciiBytes, List.flatMap_cons, List.map_append]
    apply List.append_ne_nil_of_left_ne_nil
    exact fun empty => set.asciiText_ne_nil c (List.map_eq_nil_iff.mp empty)

/-- Every byte is a character, if it is one of ASCII. -/
def bytewise (set : MultibyteSet) : MultibyteCodec where
  initial := ⟨0, []⟩
  step state b := ([if b < 0x80 then Char.ofNat b.toNat else replacementChar], state)
  finish _ := []
  has c := (set.asciiFor? c).isSome
  encode := set.encodeAscii
  encode_ne_nil := set.encodeAscii_ne_nil

/-- The bytes of ASCII and the sequences that switch character sets. -/
def switching (set : MultibyteSet) : MultibyteCodec where
  initial := SwitchingState.initial.toMultibyte
  step state b :=
    let (chars, next) := (SwitchingState.ofMultibyte state).step b
    (chars, next.toMultibyte)
  finish state := (SwitchingState.ofMultibyte state).finish
  has c := (set.asciiFor? c).isSome
  encode := set.encodeAscii
  encode_ne_nil := set.encodeAscii_ne_nil

end MultibyteSet

instance asciiOnly : MultibyteCodecs where
  codec
    | .iso2022Jp => MultibyteSet.iso2022Jp.switching
    | set => set.bytewise

end FlatFile
