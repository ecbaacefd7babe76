/-
  FlatFile/Proofs/Charset/Multibyte.lean
  ======================================
  **What is known of the multibyte sets.**

  The tables of these sets are not part of this library, so what the sets promise is
  stated here, law by law (`MultibyteSet.Lawful`): they are made for ASCII, which stands for
  itself wherever nothing is pending, and they read character by character what they have
  written.  A character that a set has is mostly read back as itself, but not always: two
  sets write the yen sign like the backslash.  A character that it lacks is read back as
  the reference to it.

  ISO-2022-JP alone has more to remember than an unfinished character.  What it writes
  ends where it began, in ASCII, but the sequence that leads back there must not be
  followed by another one.  So of two texts that are written one after the other, the
  first has to end in ASCII without such a sequence or the second has to begin in ASCII
  (`Lawful.run_flatten_encode`).
-/
import Mathlib.Data.List.Chain
import FlatFile.Charset.Encoder
import FlatFile.Proofs.Charset.Blocks

namespace FlatFile

namespace MultibyteSet

/-! ### Texts side by side -/

/-- A text that begins in ASCII, with a character that switches nothing. -/
def Opens : List Char → Prop
  | [] => False
  | c :: _ => c.toNat < 0x80 ∧ isShift c = false

instance : DecidablePred Opens
  | [] => inferInstanceAs (Decidable False)
  | c :: _ => inferInstanceAs (Decidable (c.toNat < 0x80 ∧ isShift c = false))

/-- A character for which ISO-2022-JP leaves ASCII for a set that differs from it in two places.
    It stays there with the characters that both have. -/
def isRoman (c : Char) : Bool := c == '\u00A5' || c == '\u203E'

/-- A text after which ISO-2022-JP needs no sequence to be in ASCII. -/
def Settles (text : List Char) : Prop := Opens text.reverse ∧ ∀ c ∈ text, isRoman c = false

instance (text : List Char) : Decidable (Settles text) :=
  inferInstanceAs (Decidable (Opens text.reverse ∧ ∀ c ∈ text, isRoman c = false))

theorem switches_of_plain (set : MultibyteSet) {c : Char} (plain : isShift c = false) :
    set.switches c = false := by
  rw [switches, plain, Bool.and_false]

end MultibyteSet

/-! ### The laws -/

variable [MultibyteCodecs]

namespace MultibyteSet

/-- **Nothing is pending**: the end of input adds nothing, and what is in ASCII reads as itself
    and leads back to the start.  In ISO-2022-JP there is more than one such state. -/
structure Resting (set : MultibyteSet) (state : MultibyteState) : Prop where
  finish : set.codec.finish state = []
  step : ∀ c : Char, c.toNat < 0x80 → set.switches c = false →
    set.codec.step state (UInt8.ofNat c.toNat) = ([c], set.codec.initial)

/-- What is read of a character that was written by itself. -/
def readBack (set : MultibyteSet) (c : Char) : List Char :=
  ((DecoderState.initial (.multibyte set)).run (set.codec.encode [c])).1

/-- **What a multibyte set promises.** -/
structure Lawful (set : MultibyteSet) : Prop where
  /-- At the start nothing is pending. -/
  resting_initial : set.Resting set.codec.initial
  /-- Every set has the characters of ASCII. -/
  has_ascii : ∀ {c : Char}, c.toNat < 0x80 → set.switches c = false → set.codec.has c = true
  encode_nil : set.codec.encode [] = []
  /-- ASCII is written as it is, and what follows it as if it came first. -/
  encode_ascii : ∀ {c : Char} (text : List Char), c.toNat < 0x80 → set.switches c = false →
    set.codec.encode (c :: text) = UInt8.ofNat c.toNat :: set.codec.encode text
  /-- Only in ISO-2022-JP it matters what was written before. -/
  encode_append : set ≠ .iso2022Jp → ∀ text more : List Char,
    set.codec.encode (text ++ more) = set.codec.encode text ++ set.codec.encode more
  /-- What is written is read back character by character, and in the end nothing is pending. -/
  run_encode : ∀ text : List Char, ∃ state, set.Resting state
    ∧ (Settles text → state = set.codec.initial)
    ∧ (DecoderState.initial (.multibyte set)).run (set.codec.encode text) =
      (text.flatMap set.readBack, .multibyte set state)
  /-- A character is read back as one character.  This is the same one, or one outside of ASCII,
      or one of two that stand in ASCII where a set has others. -/
  readBack_of_has : ∀ {c : Char}, set.codec.has c = true →
    ∃ d, set.readBack c = [d] ∧ (d = c ∨ 0x80 ≤ d.toNat ∨ d = '\\' ∨ d = '~')
  /-- A character that the set lacks is read back as a reference. -/
  readBack_of_lacking : ∀ {c : Char}, set.codec.has c = false →
    set.readBack c = Charset.characterReference (set.referenceChar c)

end MultibyteSet

/-- **A charset does what it promises.**  Only the multibyte sets have to promise anything: the
    others are written out here. -/
class Charset.Lawful (charset : Charset) : Prop where
  multibyte : ∀ set, charset = .multibyte set → set.Lawful

namespace MultibyteSet

theorem Resting.run_cons {set : MultibyteSet} {state : MultibyteState} (resting : set.Resting state)
    {c : Char} (ascii : c.toNat < 0x80) (plain : set.switches c = false) (rest : List UInt8) :
    (DecoderState.multibyte set state).run (UInt8.ofNat c.toNat :: rest) =
      (c :: ((DecoderState.initial (.multibyte set)).run rest).1,
        ((DecoderState.initial (.multibyte set)).run rest).2) := by
  rw [DecoderState.run, DecoderState.step, resting.step c ascii plain]
  rfl

theorem Lawful.readBack_ascii {set : MultibyteSet} (lawful : set.Lawful) {c : Char}
    (ascii : c.toNat < 0x80) (plain : set.switches c = false) : set.readBack c = [c] := by
  rw [readBack, lawful.encode_ascii [] ascii plain, lawful.encode_nil]
  exact congrArg Prod.fst (lawful.resting_initial.run_cons ascii plain [])

theorem Lawful.encode_flatten {set : MultibyteSet} (lawful : set.Lawful)
    (apart : set ≠ .iso2022Jp) (texts : List (List Char)) :
    (texts.map set.codec.encode).flatten = set.codec.encode texts.flatten := by
  induction texts with
  | nil => exact lawful.encode_nil.symm
  | cons text texts ih =>
    rw [List.map_cons, List.flatten_cons, ih, List.flatten_cons, lawful.encode_append apart]

/-- **What is written where nothing is pending is read back**, be it at the start or, if it opens in
    ASCII, after something else. -/
theorem Lawful.run_encode_of_resting {set : MultibyteSet} (lawful : set.Lawful)
    {state : MultibyteState} (resting : set.Resting state) {text : List Char}
    (start : state = set.codec.initial ∨ Opens text) :
    ∃ next, set.Resting next ∧ (Settles text → next = set.codec.initial)
      ∧ (DecoderState.multibyte set state).run (set.codec.encode text) =
        (text.flatMap set.readBack, .multibyte set next) := by
  have same : (DecoderState.multibyte set state).run (set.codec.encode text) =
      (DecoderState.initial (.multibyte set)).run (set.codec.encode text) := by
    rcases start with rfl | opens
    · rfl
    · match text, opens with
      | c :: text, ⟨ascii, plain⟩ =>
        have plain' := set.switches_of_plain plain
        rw [lawful.encode_ascii text ascii plain', resting.run_cons ascii plain',
          DecoderState.initial, lawful.resting_initial.run_cons ascii plain']
        rfl
  rw [same]
  exact lawful.run_encode text

/-- **Texts that are written one after another are read back as one.** -/
theorem Lawful.run_flatten_encode {set : MultibyteSet} (lawful : set.Lawful)
    {state : MultibyteState} (resting : set.Resting state) {texts : List (List Char)}
    (joined : texts.IsChain fun text more => Settles text ∨ Opens more)
    (start : state = set.codec.initial ∨ ∀ text ∈ texts.head?, Opens text) :
    ∃ next, set.Resting next
      ∧ (DecoderState.multibyte set state).run (texts.map set.codec.encode).flatten =
        (texts.flatten.flatMap set.readBack, .multibyte set next) := by
  induction texts generalizing state with
  | nil => exact ⟨state, resting, rfl⟩
  | cons text texts ih =>
    rcases List.isChain_cons.mp joined with ⟨meets, joined'⟩
    obtain ⟨middle, rests, settled, read⟩ := lawful.run_encode_of_resting resting
      (start.imp_right fun first => first text rfl)
    have start' : middle = set.codec.initial ∨ ∀ more ∈ texts.head?, Opens more := by
      by_cases settles : Settles text
      · exact .inl (settled settles)
      · exact .inr fun more first => (meets more first).resolve_left settles
    obtain ⟨next, rests', more⟩ := ih rests joined' start'
    refine ⟨next, rests', ?_⟩
    rw [List.map_cons, List.flatten_cons, DecoderState.run_append, read, more, List.flatten_cons,
      List.flatMap_append]

end MultibyteSet

end FlatFile
