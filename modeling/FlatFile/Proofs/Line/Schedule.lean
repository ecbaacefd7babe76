/-
  FlatFile/Proofs/Line/Schedule.lean
  ==================================
  **The lines of a source do not depend on how it is read.**

  A reader takes its source block by block, keeps the text of an unfinished line
  and searches on where it stopped.  `LineBuffer.Settled` is the invariant of the
  text at hand: what was looked through ends no line.  So a search that goes on is
  as good as one from the start, and what a reader owes is decided by its text at
  hand and the bytes still to come (`LineReader.text`), not by the reads that bring
  them.

  Each call of `next` hands out the first line owed and goes on owing the others
  (`next_handsOut`); by induction on the work left, a reader hands out all of them and
  nothing after (`drain_eq`).  The main result is `drain_new_eq_splitLines`.
-/
import FlatFile.Charset.AsciiOnly
import FlatFile.Line.Drain
import FlatFile.Proofs.Charset.Blocks
import FlatFile.Proofs.Line.Search
import FlatFile.Proofs.Stream.Content
import Mathlib.Logic.Function.Iterate

namespace FlatFile

/-! ### The text at hand -/

namespace LineBuffer

/-- **The invariant of the text at hand**: what was looked through is part of it and ends
    no line. -/
structure Settled (buffer : LineBuffer) : Prop where
  inside : buffer.scanned ≤ buffer.backlog.length
  quiet : Line.Quiet buffer.terminator (buffer.backlog.take buffer.scanned)

theorem settled_of_unscanned {buffer : LineBuffer} (unscanned : buffer.scanned = 0) :
    buffer.Settled :=
  ⟨by omega, by rw [unscanned, List.take_zero]; exact .nil _⟩

theorem Settled.grow {buffer : LineBuffer} (settled : buffer.Settled) (chars : List Char)
    (decoder : Decoder) (ended : Bool) :
    Settled { buffer with decoder, backlog := buffer.backlog ++ chars, ended } := by
  constructor
  · have := settled.inside
    simp only [List.length_append]
    omega
  · simpa only [List.take_append_of_le_length settled.inside] using settled.quiet

/-- **Searching on is as good as searching from the start.** -/
theorem Settled.search_eq {buffer : LineBuffer} (settled : buffer.Settled) :
    buffer.search = Line.findEnd buffer.terminator buffer.ended 0 buffer.backlog := by
  have whole := Line.findEnd_quiet settled.quiet buffer.ended 0
    (buffer.backlog.drop buffer.scanned)
  rw [List.take_append_drop, List.length_take, Nat.min_eq_left settled.inside,
    Nat.zero_add] at whole
  exact whole.symm

/-- A line that is cut off is the first one of the text, however it goes on. -/
theorem Settled.cut_some {buffer after : LineBuffer} {line : List Char}
    (settled : buffer.Settled) (h : buffer.cut = (some line, after)) :
    after = { buffer with backlog := after.backlog, scanned := 0 }
      ∧ ∀ more, (buffer.ended = true → more = []) →
        Line.splitLines buffer.terminator (buffer.backlog ++ more) =
          line :: Line.splitLines buffer.terminator (after.backlog ++ more) := by
  unfold cut at h
  split at h
  · rename_i stop next found
    rw [settled.search_eq] at found
    cases h
    exact ⟨rfl, Line.splitLines_of_found found⟩
  · cases h

theorem Settled.cut_none {buffer after : LineBuffer} (settled : buffer.Settled)
    (h : buffer.cut = (none, after)) :
    after = { buffer with scanned := after.scanned } ∧ after.Settled
      ∧ (buffer.ended = true → Line.Quiet buffer.terminator buffer.backlog) := by
  unfold cut at h
  split at h
  · cases h
  · rename_i resume unfinished
    rw [settled.search_eq] at unfinished
    have passed := Line.quiet_of_unfinished unfinished
    cases h
    exact ⟨rfl, ⟨passed.1, passed.2.1⟩, passed.2.2⟩

/-- The lines of the text at hand, if no more can come. -/
def lines (buffer : LineBuffer) : List (List Char) :=
  Line.splitLines buffer.terminator buffer.backlog

/-- **Without more text to come, a buffer hands out its first line**, terminated or not, and
    keeps the others. -/
theorem Settled.cutLast_eq {buffer : LineBuffer} (settled : buffer.Settled)
    (ended : buffer.ended = true) :
    buffer.cutLast.1 = buffer.lines.head? ∧ buffer.cutLast.2.Settled
      ∧ buffer.cutLast.2.ended = true ∧ buffer.cutLast.2.lines = buffer.lines.tail := by
  unfold cutLast
  split
  · rename_i line after cut
    obtain ⟨same, split⟩ := settled.cut_some cut
    have all := split [] fun _ => rfl
    simp only [List.append_nil] at all
    rw [same]
    refine ⟨?_, settled_of_unscanned rfl, ended, ?_⟩
    · rw [lines, all, List.head?_cons]
    · rw [lines, lines, all, List.tail_cons]
  · rename_i after cut
    obtain ⟨same, settled', quiet⟩ := settled.cut_none cut
    have all := Line.splitLines_quiet (quiet ended)
    have ended' : after.ended = true := by rw [same]; exact ended
    have backlog : after.backlog = buffer.backlog := by rw [same]
    have terminator : after.terminator = buffer.terminator := by rw [same]
    split
    · rename_i nothing
      rw [backlog] at nothing
      simp only [lines, backlog, terminator, all, nothing, if_true]
      exact ⟨rfl, settled', ended', rfl⟩
    · rename_i something
      rw [backlog] at something
      simp only [lines, backlog, terminator, all, something, Bool.false_eq_true, if_false]
      exact ⟨rfl, settled_of_unscanned rfl, ended', rfl⟩

end LineBuffer

/-! ### The reader -/

namespace LineReader

section

variable [MultibyteCodecs]

/-- The text that a reader has not handed out yet: that at hand, and that of the bytes still
    to come. -/
def text (reader : LineReader) : List Char :=
  if reader.buffer.ended then reader.buffer.backlog
  else reader.buffer.backlog ++ reader.buffer.decoder.rest reader.source.bytes

/-- The lines that a reader owes. -/
def owed (reader : LineReader) : List (List Char) :=
  Line.splitLines reader.buffer.terminator reader.text

/-- **The invariant of a reader** whose source comes to its end. -/
structure Sound (reader : LineReader) : Prop where
  working : reader.failed = false
  settled : reader.buffer.Settled
  served : reader.buffer.ended = false → reader.source.failure? = none

/-- What a step hands out and leaves is the first line owed and the others. -/
def HandsOut (owed : List (List Char))
    (step : Option (Except IoFailure (List Char)) × LineReader) : Prop :=
  step.1 = owed.head?.map .ok ∧ step.2.Sound ∧ step.2.owed = owed.tail

theorem handsOut_cutLast {buffer : LineBuffer} (settled : buffer.Settled)
    (ended : buffer.ended = true) (source : Source) :
    HandsOut buffer.lines
      (buffer.cutLast.1.map .ok, ⟨buffer.cutLast.2, source, false⟩) := by
  obtain ⟨first, settled', ended', others⟩ := settled.cutLast_eq ended
  refine ⟨by rw [first], ⟨rfl, settled', by simp [ended']⟩, ?_⟩
  simpa [owed, text, ended', LineBuffer.lines] using others

/-- The news of the end of the source brings the text that the decoder still owes. -/
theorem handsOut_close {buffer : LineBuffer} (settled : buffer.Settled) (source : Source) :
    HandsOut
      (Line.splitLines buffer.terminator (buffer.backlog ++ buffer.decoder.rest []))
      (buffer.close.cutLast.1.map .ok, ⟨buffer.close.cutLast.2, source, false⟩) := by
  have closed : buffer.close.Settled := settled.grow _ _ _
  rw [Decoder.rest_nil]
  exact handsOut_cutLast closed rfl source

/-- **A pull hands out the first line** of the text at hand and the bytes to come, whatever
    reads bring them. -/
theorem pull_handsOut {buffer : LineBuffer} {source : Source} (settled : buffer.Settled)
    (fresh : buffer.ended = false) (served : source.failure? = none) :
    HandsOut
      (Line.splitLines buffer.terminator (buffer.backlog ++ buffer.decoder.rest source.bytes))
      (pull buffer source) := by
  -- A read that completes no line leaves a settled buffer, so the induction is on the reads
  -- and over all such buffers.
  induction source generalizing buffer with
  | nil =>
    unfold pull
    split
    · rename_i line after cut
      obtain ⟨same, split⟩ := settled.cut_some cut
      rw [split _ (by simp [fresh])]
      refine ⟨rfl, ⟨rfl, ?_, fun _ => rfl⟩, ?_⟩
      · rw [same]; exact LineBuffer.settled_of_unscanned rfl
      · rw [same]; simp [owed, text, fresh]
    · rename_i after cut
      obtain ⟨same, settled', -⟩ := settled.cut_none cut
      have closed := handsOut_close settled' []
      rw [same] at closed ⊢
      exact closed
  | cons reading rest ih =>
    unfold pull
    split
    · rename_i line after cut
      obtain ⟨same, split⟩ := settled.cut_some cut
      rw [split _ (by simp [fresh])]
      refine ⟨rfl, ⟨rfl, ?_, fun _ => served⟩, ?_⟩
      · rw [same]; exact LineBuffer.settled_of_unscanned rfl
      · rw [same]; simp [owed, text, fresh]
    · rename_i after cut
      obtain ⟨same, settled', -⟩ := settled.cut_none cut
      have fresh' : after.ended = false := by rw [same]; exact fresh
      have text : buffer.backlog ++ buffer.decoder.rest (Source.bytes (reading :: rest)) =
          after.backlog ++ after.decoder.rest (Source.bytes (reading :: rest)) := by rw [same]
      have terminator : buffer.terminator = after.terminator := by rw [same]
      rw [text, terminator]
      split
      · contradiction
      · rename_i eq
        cases eq
        exact handsOut_close settled' _
      · rename_i b block rest' eq
        cases eq
        -- the text of the block moves from the bytes to come to the text at hand
        have fed : (after.feed (b :: block)).Settled := settled'.grow _ _ _
        have more := ih fed fresh' served
        simp only [Source.bytes, Decoder.rest_append, ← List.append_assoc]
        exact more
      · rename_i failure rest' eq
        cases eq
        -- Of the failures only an interruption can stand before the end of a source that is
        -- served whole; it is passed over.
        simp only [Source.failure?] at served
        split
        · rename_i retried
          rw [if_pos retried] at served
          simpa only [Source.bytes, if_pos retried] using ih settled' fresh' served
        · rename_i fatal
          rw [if_neg fatal] at served
          cases served

/-- **Each call hands out the first line owed** and goes on owing the others. -/
theorem next_handsOut {reader : LineReader} (sound : reader.Sound) :
    HandsOut reader.owed reader.next := by
  rcases reader with ⟨buffer, source, failed⟩
  rcases sound with ⟨working, settled, served⟩
  cases working
  unfold next owed text
  by_cases ended : buffer.ended = true
  · simpa [ended, LineBuffer.lines] using handsOut_cutLast settled ended source
  · have fresh : buffer.ended = false := by simpa using ended
    simpa [fresh] using pull_handsOut settled fresh (served fresh)

/-- **A reader hands out all the lines it owes**, and owes nothing afterwards. -/
theorem drain_eq {reader : LineReader} (sound : reader.Sound) :
    reader.drain.1 = reader.owed.map .ok ∧ reader.drain.2.Sound ∧ reader.drain.2.owed = [] := by
  induction reader using drain.induct with
  | case1 reader after next =>
    obtain ⟨first, sound', others⟩ := next_handsOut sound
    rw [next] at first sound' others
    have nothing : reader.owed = [] := by
      cases lines : reader.owed with
      | nil => rfl
      | cons line lines' => simp [lines] at first
    rw [drain, next]
    simp only [nothing, List.tail_nil] at others
    exact ⟨by rw [nothing, List.map_nil], sound', others⟩
  | case2 reader item after next _ _ _ ih =>
    obtain ⟨first, sound', others⟩ := next_handsOut sound
    rw [next] at first sound' others
    obtain ⟨items, final⟩ := ih sound'
    cases lines : reader.owed with
    | nil => simp [lines] at first
    | cons line lines' =>
      simp only [lines, List.head?_cons, Option.map_some, Option.some.injEq] at first
      simp only [lines, List.tail_cons] at others
      rw [drain, next]
      exact ⟨by simp [items, others, first], final⟩

theorem next_eq_none {reader : LineReader} (sound : reader.Sound) (nothing : reader.owed = [])
    (calls : Nat) : ((fun reader : LineReader => reader.next.2)^[calls] reader).next.1 = none := by
  induction calls generalizing reader with
  | zero => simpa [nothing] using (next_handsOut sound).1
  | succ calls ih =>
    obtain ⟨-, sound', others⟩ := next_handsOut sound
    rw [nothing, List.tail_nil] at others
    exact ih sound' others

theorem sound_new {source : Source} (served : source.failure? = none) (charset : Charset)
    (terminator : Line.Terminator) : (new source charset terminator).Sound where
  working := rfl
  settled := LineBuffer.settled_of_unscanned rfl
  served _ := by rw [new, (Source.content_inBlocks source).2, served]

theorem owed_new (source : Source) (charset : Charset) (terminator : Line.Terminator) :
    (new source charset terminator).owed =
      Line.splitLines terminator (charset.decode source.bytes) := by
  simp only [owed, text, new, LineBuffer.new, Bool.false_eq_true, if_false, List.nil_append,
    (Source.content_inBlocks source).1, Decoder.rest_new]

/-- **The lines of a source are those of its whole text**, decoded at once and cut once, however
    its bytes are served; and there is nothing after them. -/
theorem drain_new_eq_splitLines (source : Source) (charset : Charset)
    (terminator : Line.Terminator) (served : source.failure? = none) :
    (new source charset terminator).drain.1 =
        (Line.splitLines terminator (charset.decode source.bytes)).map .ok
      ∧ ∀ calls, ((fun reader : LineReader => reader.next.2)^[calls]
          (new source charset terminator).drain.2).next.1 = none := by
  obtain ⟨items, sound, nothing⟩ := drain_eq (sound_new served charset terminator)
  rw [owed_new] at items
  exact ⟨items, next_eq_none sound nothing⟩

end

/-- The reads cut the mark at the start, a line ending and a character in two. -/
theorem drain_new_cut_in_pieces :
    (new [.data [0xEF], .failure ⟨.interrupted, none⟩, .data [0xBB, 0xBF, 0x61, 0x0D],
        .data [0x0A, 0xC3], .data [0xA9]] .utf8 none).drain.1 = [.ok ['a'], .ok ['é']] :=
  (drain_new_eq_splitLines _ .utf8 none rfl).1.trans rfl

end LineReader

end FlatFile
