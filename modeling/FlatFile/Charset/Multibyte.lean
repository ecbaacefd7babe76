/-
  FlatFile/Charset/Multibyte.lean
  ===============================
  **The multibyte sets, which are read and written by codecs of their own.**

  In these sets a character may take several bytes, and in ISO-2022-JP a sequence
  of bytes may change what the bytes after it stand for.  Their tables are not
  part of this library.  So a set is read by any machine that takes one byte at a
  time, and written by any function from texts to bytes (`MultibyteCodec`), and
  everything that reads or writes is about any such codecs (`MultibyteCodecs`).

  What has to be known of the codecs stands where it is used, as a hypothesis of
  its own (`MultibyteSet.Lawful`).
-/
import FlatFile.Charset.Basic

namespace FlatFile

/-- What a reader of a multibyte set remembers of what it has read: the mode in which it is,
    and the bytes of an unfinished character. -/
structure MultibyteState where
  mode : Nat
  held : List UInt8
deriving DecidableEq, Repr

/-- How a multibyte set is read and written. -/
structure MultibyteCodec where
  /-- The state before the first byte. -/
  initial : MultibyteState
  /-- One byte more: the characters that it completes. -/
  step : MultibyteState → UInt8 → List Char × MultibyteState
  /-- What the end of input leaves to be read. -/
  finish : MultibyteState → List Char
  /-- The set has a character. -/
  has : Char → Bool
  /-- The bytes of a whole text, with references to the characters that the set lacks. -/
  encode : List Char → List UInt8
  /-- Whatever there is to write takes bytes. -/
  encode_ne_nil : ∀ {text : List Char}, text ≠ [] → encode text ≠ []

/-- **The codecs of the multibyte sets**, whatever they are. -/
class MultibyteCodecs where
  codec : MultibyteSet → MultibyteCodec

namespace MultibyteSet

/-- How a set is read and written. -/
def codec [MultibyteCodecs] (set : MultibyteSet) : MultibyteCodec := MultibyteCodecs.codec set

/-- A control that has a meaning for switching character sets. -/
def isShift (c : Char) : Bool := c == '\x0e' || c == '\x0f' || c == '\x1b'

/-- A character that only switches, which it does in ISO-2022-JP. -/
def switches (set : MultibyteSet) (c : Char) : Bool := set == .iso2022Jp && isShift c

/-- The character that a reference names in place of one that the set lacks. -/
def referenceChar (set : MultibyteSet) (c : Char) : Char :=
  if set.switches c then replacementChar else c

end MultibyteSet

end FlatFile
