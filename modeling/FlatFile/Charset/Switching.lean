/-
  FlatFile/Charset/Switching.lean
  ===============================
  **A charset that switches between character sets.**

  All bytes of ISO-2022-JP lie below 0x80.  What they stand for depends on the
  character set at hand, which is ASCII at first and changes with every escape
  sequence: an escape and two more bytes.  Of the set that writes a character in
  two bytes no character is known, and a pair of bytes reads as U+FFFD.

  An escape that starts no sequence reads as U+FFFD, and so does a sequence right
  after another one, which was then of no use.
-/
import FlatFile.Charset.Multibyte

namespace FlatFile

/-- The character sets of ISO-2022-JP. -/
inductive CharacterSet where
  | ascii
  /-- ASCII with the yen sign and the overline. -/
  | roman
  | katakana
  /-- The set with two bytes for each character. -/
  | pairs
deriving DecidableEq, Repr

namespace CharacterSet

/-- The set that an escape sequence switches to, from its last two bytes. -/
def chosen? (first second : Nat) : Option CharacterSet :=
  match first, second with
  | 0x28, 0x42 => some .ascii
  | 0x28, 0x4A => some .roman
  | 0x28, 0x49 => some .katakana
  | 0x24, 0x40 => some .pairs
  | 0x24, 0x42 => some .pairs
  | _, _ => none

/-- The place of a character set among all of them. -/
def number : CharacterSet → Nat
  | .ascii => 0
  | .roman => 1
  | .katakana => 2
  | .pairs => 3

def ofNumber : Nat → CharacterSet
  | 0 => .ascii
  | 1 => .roman
  | 2 => .katakana
  | _ => .pairs

def decodeByte (set : CharacterSet) (b : Nat) : Char :=
  match set with
  | .ascii => if b < 0x80 ∧ b ≠ 0x0E ∧ b ≠ 0x0F then Char.ofNat b else replacementChar
  | .roman =>
    if b = 0x5C then '\u00A5'
    else if b = 0x7E then '\u203E'
    else if b < 0x80 ∧ b ≠ 0x0E ∧ b ≠ 0x0F then Char.ofNat b
    else replacementChar
  | .katakana => if 0x21 ≤ b ∧ b ≤ 0x5F then Char.ofNat (0xFF40 + b) else replacementChar
  | .pairs => replacementChar

end CharacterSet

/-- How much of an escape sequence has been read. -/
inductive EscapePart where
  | nothing
  | escape
  /-- The escape and one more byte. -/
  | first (b : Nat)
deriving DecidableEq, Repr

/-- What is held of the input of a switching charset. -/
structure SwitchingState where
  set : CharacterSet
  /-- The first byte of a pair has been read. -/
  halfway : Bool
  escape : EscapePart
  /-- The last thing read was an escape sequence. -/
  switched : Bool
deriving DecidableEq, Repr

namespace SwitchingState

/-- Nothing is pending, and ASCII is at hand. -/
def initial : SwitchingState := ⟨.ascii, false, .nothing, false⟩

/-- One byte outside escape sequences. -/
def stepPlain (state : SwitchingState) (b : Nat) : List Char × SwitchingState :=
  if b = 0x1B then
    (if state.halfway then [replacementChar] else [],
      { state with halfway := false, escape := .escape })
  else if state.set = .pairs ∧ !state.halfway ∧ 0x21 ≤ b ∧ b ≤ 0x7E then
    ([], ⟨.pairs, true, .nothing, false⟩)
  else ([state.set.decodeByte b], ⟨state.set, false, .nothing, false⟩)

/-- The state in which the bytes after a failed escape are read. -/
def afterFailure (state : SwitchingState) : SwitchingState :=
  { state with escape := .nothing, switched := false }

def step (state : SwitchingState) (b : UInt8) : List Char × SwitchingState :=
  match state.escape with
  | .nothing => state.stepPlain b.toNat
  | .escape =>
    if b = 0x24 ∨ b = 0x28 then ([], { state with escape := .first b.toNat })
    else
      let (chars, next) := state.afterFailure.stepPlain b.toNat
      (replacementChar :: chars, next)
  | .first first =>
    match CharacterSet.chosen? first b.toNat with
    | some set =>
      (if state.switched then [replacementChar] else [], ⟨set, false, .nothing, true⟩)
    | none =>
      let (chars, next) := state.afterFailure.stepPlain first
      let (more, last) := next.stepPlain b.toNat
      (replacementChar :: chars ++ more, last)

def finishPlain (state : SwitchingState) : List Char :=
  if state.halfway then [replacementChar] else []

def finish (state : SwitchingState) : List Char :=
  match state.escape with
  | .nothing => state.finishPlain
  | .escape => [replacementChar]
  | .first first =>
    let (chars, next) := state.afterFailure.stepPlain first
    replacementChar :: chars ++ next.finishPlain

/-! ### As the state of a multibyte set -/

/-- The first byte of a pair, whichever it was, and the bytes of an unfinished escape sequence. -/
def held (state : SwitchingState) : List UInt8 :=
  match state.escape with
  | .nothing => if state.halfway then [0x21] else []
  | .escape => [0x1B]
  | .first b => [0x1B, UInt8.ofNat b]

def toMultibyte (state : SwitchingState) : MultibyteState :=
  ⟨2 * state.set.number + state.switched.toNat, state.held⟩

def ofMultibyte (state : MultibyteState) : SwitchingState where
  set := .ofNumber (state.mode / 2)
  halfway := state.held == [0x21]
  escape :=
    match state.held with
    | [b] => if b = 0x1B then .escape else .nothing
    | [_, b] => .first b.toNat
    | _ => .nothing
  switched := state.mode % 2 == 1

end SwitchingState

end FlatFile
