/-
  FlatFile/Charset/Encoder.lean
  =============================
  **Writing text in a charset.**

  Text is written character by character.  A character the charset lacks is
  written as a decimal character reference in ASCII, `&#N;`, which every charset
  here can spell; so writing never fails.

  A multibyte set is written by its codec, which takes the text as a whole: what
  comes before a character may decide how it is written.
-/
import FlatFile.Charset.Multibyte
import FlatFile.Text.Numeral

namespace FlatFile.Charset

def asciiBytes (text : List Char) : List UInt8 := text.map fun c => UInt8.ofNat c.toNat

/-- The decimal reference to a character. -/
def characterReference (c : Char) : List Char := ['&', '#'] ++ Text.decimal c.toNat ++ [';']

variable [MultibyteCodecs]

/-- The bytes of a character by itself, if the charset has it. -/
def encodeChar? : Charset → Char → Option (List UInt8)
  | .page codePage, c => (codePage.encodeChar? c).map fun b => [b]
  | .userDefined, c =>
    if c.toNat < 0x80 then some [UInt8.ofNat c.toNat]
    else if 0xF780 ≤ c.toNat ∧ c.toNat ≤ 0xF7FF then some [UInt8.ofNat (c.toNat - 0xF700)]
    else none
  | .multibyte set, c => if set.codec.has c then some (set.codec.encode [c]) else none
  | _, c => some (String.utf8EncodeChar c)

/-- A character can be written as itself. -/
def represents (charset : Charset) (c : Char) : Bool := (charset.output.encodeChar? c).isSome

/-- The bytes of a character, as a reference where the charset lacks it. -/
def encodeChar (charset : Charset) (c : Char) : List UInt8 :=
  (charset.output.encodeChar? c).getD (asciiBytes (characterReference c))

/-- **The bytes of a text in the output form of the charset.** -/
def encode (charset : Charset) (text : List Char) : List UInt8 :=
  match charset with
  | .multibyte set => set.codec.encode text
  | _ => text.flatMap charset.encodeChar

end FlatFile.Charset
