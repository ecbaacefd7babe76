/-
  FlatFile/Proofs/Charset/Blocks.lean
  ===================================
  **Where the blocks of a text end means nothing to its decoder.**

  Feeding one block and then another gives the characters of both together, and
  leaves the decoder in the same state.  So the text still to come from a decoder
  (`Decoder.rest`) depends on the bytes alone; for a fresh decoder it is what
  `Charset.decode` reads from the whole sequence at once.
-/
import FlatFile.Charset.Decoder

namespace FlatFile

variable [MultibyteCodecs]

theorem DecoderState.run_append (state : DecoderState) (block more : List UInt8) :
    state.run (block ++ more) =
      ((state.run block).1 ++ ((state.run block).2.run more).1,
        ((state.run block).2.run more).2) := by
  induction block generalizing state with
  | nil => simp [run]
  | cons b block ih => simp [run, ih]

namespace Decoder

omit [MultibyteCodecs] in
theorem dropMark_append (atStart : Bool) (chars more : List Char) :
    dropMark atStart (chars ++ more) =
      dropMark atStart chars ++ dropMark (atStart && chars.isEmpty) more := by
  cases chars with
  | nil => cases atStart <;> simp [dropMark]
  | cons c chars =>
    cases atStart with
    | false => simp [dropMark]
    | true => by_cases mark : c = byteOrderMark <;> simp [dropMark, mark]

/-- **Two blocks are read like one.** -/
theorem feed_append (decoder : Decoder) (block more : List UInt8) :
    decoder.feed (block ++ more) =
      ((decoder.feed block).1 ++ ((decoder.feed block).2.feed more).1,
        ((decoder.feed block).2.feed more).2) := by
  simp only [feed, DecoderState.run_append, dropMark_append]
  cases (decoder.state.run block).1 <;> simp

/-- The text of the bytes still to come, up to their end. -/
def rest (decoder : Decoder) (bytes : List UInt8) : List Char :=
  (decoder.feed bytes).1 ++ (decoder.feed bytes).2.finish

theorem rest_append (decoder : Decoder) (block more : List UInt8) :
    decoder.rest (block ++ more) =
      (decoder.feed block).1 ++ (decoder.feed block).2.rest more := by
  simp only [rest, feed_append, List.append_assoc]

theorem rest_nil (decoder : Decoder) : decoder.rest [] = decoder.finish := by
  simp [rest, feed, DecoderState.run, dropMark]

theorem rest_new (charset : Charset) (bytes : List UInt8) :
    (new charset).rest bytes = charset.decode bytes := rfl

end Decoder

end FlatFile
