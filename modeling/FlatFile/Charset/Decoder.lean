/-
  FlatFile/Charset/Decoder.lean
  =============================
  **Reading text in a charset.**

  Bytes arrive in blocks whose boundaries mean nothing, so reading is a machine
  that takes one byte at a time and carries what it holds of an unfinished
  character.  Malformed input never stops it: it reads as U+FFFD, one for each
  sequence that turns out not to be a character, and the byte that showed it is
  then read afresh.  At the end of input an unfinished character becomes one
  U+FFFD as well.

  A multibyte set is read by the machine of its codec.

  `Decoder.feed` takes a block and `Decoder.finish` the end of input; the mark
  U+FEFF at the very start is dropped for the charsets that have one.
  `Charset.decode` reads a whole sequence of bytes at once.
-/
import FlatFile.Charset.Multibyte

namespace FlatFile

/-! ### UTF-8 -/

/-- What is held of an unfinished UTF-8 sequence. -/
inductive Utf8State where
  /-- Nothing is pending. -/
  | idle
  /-- `needed` more bytes, the next one between `low` and `high`; `bits` are those of
      the code point so far. -/
  | partway (needed low high bits : Nat)
deriving DecidableEq, Repr

namespace Utf8State

/-- A byte that starts a sequence. -/
def start (b : Nat) : List Char × Utf8State :=
  if b < 0x80 then ([Char.ofNat b], .idle)
  else if 0xC2 ≤ b ∧ b ≤ 0xDF then ([], .partway 1 0x80 0xBF (b - 0xC0))
  else if b = 0xE0 then ([], .partway 2 0xA0 0xBF 0)
  else if b = 0xED then ([], .partway 2 0x80 0x9F 0xD)
  else if 0xE1 ≤ b ∧ b ≤ 0xEF then ([], .partway 2 0x80 0xBF (b - 0xE0))
  else if b = 0xF0 then ([], .partway 3 0x90 0xBF 0)
  else if b = 0xF4 then ([], .partway 3 0x80 0x8F 4)
  else if 0xF1 ≤ b ∧ b ≤ 0xF3 then ([], .partway 3 0x80 0xBF (b - 0xF0))
  else ([replacementChar], .idle)

def step (state : Utf8State) (b : UInt8) : List Char × Utf8State :=
  match state with
  | .idle => start b.toNat
  | .partway needed low high bits =>
    if low ≤ b.toNat ∧ b.toNat ≤ high then
      if needed ≤ 1 then ([Char.ofNat (64 * bits + (b.toNat - 0x80))], .idle)
      else ([], .partway (needed - 1) 0x80 0xBF (64 * bits + (b.toNat - 0x80)))
    else
      let (chars, next) := start b.toNat
      (replacementChar :: chars, next)

/-- What the end of input leaves to be read. -/
def finish : Utf8State → List Char
  | .idle => []
  | .partway .. => [replacementChar]

end Utf8State

/-! ### UTF-16 -/

/-- What is held of an unfinished UTF-16 character: the first byte of a unit, and a
    leading surrogate that waits for its trailing one. -/
structure Utf16State where
  byte : Option UInt8
  lead : Option Nat
deriving DecidableEq, Repr

namespace Utf16State

def idle : Utf16State := ⟨none, none⟩

/-- A unit that starts a character. -/
def start (unit : Nat) : List Char × Utf16State :=
  if 0xD800 ≤ unit ∧ unit ≤ 0xDBFF then ([], ⟨none, some unit⟩)
  else if 0xDC00 ≤ unit ∧ unit ≤ 0xDFFF then ([replacementChar], idle)
  else ([Char.ofNat unit], idle)

def stepUnit (lead : Option Nat) (unit : Nat) : List Char × Utf16State :=
  match lead with
  | none => start unit
  | some high =>
    if 0xDC00 ≤ unit ∧ unit ≤ 0xDFFF then
      ([Char.ofNat (0x10000 + 0x400 * (high - 0xD800) + (unit - 0xDC00))], idle)
    else
      let (chars, next) := start unit
      (replacementChar :: chars, next)

/-- One byte more; `bigEndian` tells whether the first byte of a unit is its upper
    half. -/
def step (bigEndian : Bool) (state : Utf16State) (b : UInt8) : List Char × Utf16State :=
  match state.byte with
  | none => ([], { state with byte := some b })
  | some first =>
    let unit :=
      if bigEndian then 256 * first.toNat + b.toNat else 256 * b.toNat + first.toNat
    stepUnit state.lead unit

def finish (state : Utf16State) : List Char :=
  if state = idle then [] else [replacementChar]

end Utf16State

/-! ### The decoder of a charset -/

/-- What a charset holds of unread input. -/
inductive DecoderState where
  | utf8 (state : Utf8State)
  | utf16 (bigEndian : Bool) (state : Utf16State)
  /-- The one U+FFFD that stands for the whole content has been read. -/
  | replaced (done : Bool)
  | userDefined
  | page (codePage : CodePage)
  | multibyte (set : MultibyteSet) (state : MultibyteState)
deriving DecidableEq, Repr

variable [MultibyteCodecs]

namespace DecoderState

/-- The state before the first byte. -/
def initial : Charset → DecoderState
  | .utf8 => .utf8 .idle
  | .utf16le => .utf16 false .idle
  | .utf16be => .utf16 true .idle
  | .replacement => .replaced false
  | .userDefined => .userDefined
  | .page codePage => .page codePage
  | .multibyte set => .multibyte set set.codec.initial

def step (state : DecoderState) (b : UInt8) : List Char × DecoderState :=
  match state with
  | .utf8 s =>
    let (chars, next) := s.step b
    (chars, .utf8 next)
  | .utf16 bigEndian s =>
    let (chars, next) := s.step bigEndian b
    (chars, .utf16 bigEndian next)
  | .replaced done => (if done then [] else [replacementChar], .replaced true)
  | .userDefined =>
    ([if b < 0x80 then Char.ofNat b.toNat else Char.ofNat (0xF700 + b.toNat)], .userDefined)
  | .page codePage => ([codePage.decodeByte b], .page codePage)
  | .multibyte set s =>
    let (chars, next) := set.codec.step s b
    (chars, .multibyte set next)

/-- A block of bytes: the characters they complete. -/
def run (state : DecoderState) : List UInt8 → List Char × DecoderState
  | [] => ([], state)
  | b :: rest =>
    let (chars, next) := state.step b
    let (more, final) := next.run rest
    (chars ++ more, final)

def finish : DecoderState → List Char
  | .utf8 s => s.finish
  | .utf16 _ s => s.finish
  | .multibyte set s => set.codec.finish s
  | _ => []

end DecoderState

/-- A decoder at work: `atStart` until the first character of a charset that may
    begin with a byte order mark. -/
structure Decoder where
  state : DecoderState
  atStart : Bool
deriving DecidableEq, Repr

namespace Decoder

def new (charset : Charset) : Decoder := ⟨.initial charset, charset.hasByteOrderMark⟩

/-- The characters without the byte order mark they may begin with, if this is the
    start of the text. -/
def dropMark (atStart : Bool) (chars : List Char) : List Char :=
  match atStart, chars with
  | true, c :: rest => if c = byteOrderMark then rest else chars
  | _, _ => chars

def feed (decoder : Decoder) (block : List UInt8) : List Char × Decoder :=
  let (chars, next) := decoder.state.run block
  (dropMark decoder.atStart chars, ⟨next, decoder.atStart && chars.isEmpty⟩)

/-- The text still owed at the end of input. -/
def finish (decoder : Decoder) : List Char := dropMark decoder.atStart decoder.state.finish

end Decoder

/-- **The text of a whole sequence of bytes.** -/
def Charset.decode (charset : Charset) (bytes : List UInt8) : List Char :=
  let (chars, decoder) := (Decoder.new charset).feed bytes
  chars ++ decoder.finish

end FlatFile
