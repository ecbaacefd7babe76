/-
  FlatFile/Proofs/Line/Failing.lean
  =================================
  **What a reader of lines hands out when its source fails.**

  The text that was read when a source fails may end in the middle of a line, after a
  carriage return whose line feed did not come, or in the middle of a character.  Its
  complete lines (`Line.completeLines`) are those that nothing read later could change
  (`completeLines_append`).

  A reader on its way to a failure (`LineReader.Heading`) answers each call with the first
  of the complete lines still owed, and with the failure when none is left
  (`next_answers`).  By induction on the work left, it hands out all of them, then the
  failure, and then it neither says nor reads anything more (`drain_new_of_failure`).
-/
import FlatFile.Charset.AsciiOnly
import FlatFile.Proofs.Line.Schedule

namespace FlatFile

/-! ### Complete lines -/

namespace Line

/-- The complete lines of a text that may still grow, given the current line so far, last
    character first. -/
def completeFrom (terminator : Terminator) : List Char → List Char → List (List Char)
  | _, [] => []
  | line, c :: rest =>
    match terminator with
    | some own =>
      if c = own then line.reverse :: completeFrom terminator [] rest
      else completeFrom terminator (c :: line) rest
    | none =>
      if c = '\n' then line.reverse :: completeFrom terminator [] rest
      else if c = '\r' then
        match rest with
        | [] => []
        | '\n' :: rest' => line.reverse :: completeFrom terminator [] rest'
        | d :: rest' => line.reverse :: completeFrom terminator [] (d :: rest')
      else completeFrom terminator (c :: line) rest

/-- **The complete lines of a text that may still grow**: those that a terminator of their own
    ends, or else a line feed, a carriage return with its line feed, or a carriage return that
    another character follows. -/
def completeLines (terminator : Terminator) (text : List Char) : List (List Char) :=
  completeFrom terminator [] text

theorem completeFrom_quiet {terminator : Terminator} {line : List Char}
    (quiet : Quiet terminator line) (sofar rest : List Char) :
    completeFrom terminator sofar (line ++ rest) =
      completeFrom terminator (line.reverse ++ sofar) rest := by
  induction line generalizing sofar with
  | nil => rfl
  | cons c line ih =>
    rcases List.forall_mem_cons.mp quiet with ⟨here, others⟩
    have later := ih others (c :: sofar)
    rw [List.cons_append, List.reverse_cons, List.append_assoc, List.singleton_append, ← later]
    cases terminator with
    | some own =>
      have other : c ≠ own := by simpa [ends] using here
      simp only [completeFrom, if_neg other]
    | none =>
      have other : c ≠ '\n' ∧ c ≠ '\r' := by simpa [ends] using here
      rw [completeFrom.eq_def]
      simp only [if_neg other.1, if_neg other.2]

/-- **What the search finds in a text that may grow is its first complete line.** -/
theorem completeLines_of_found {terminator : Terminator} {text : List Char} {stop next : Nat}
    (found : findEnd terminator false 0 text = .found stop next) (more : List Char) :
    completeLines terminator (text ++ more) =
      text.take stop :: completeLines terminator (text.drop next ++ more) := by
  obtain ⟨line, rest, rfl, quiet, nothing | ⟨c, after, rfl, mark⟩⟩ := exists_quiet terminator text
  · rw [nothing, findEnd_quiet quiet] at found
    cases found
  · rw [findEnd_quiet quiet, Nat.zero_add] at found
    rw [completeLines, List.append_assoc, completeFrom_quiet quiet, List.append_nil,
      List.cons_append]
    cases terminator with
    | some own =>
      have same : c = own := by simpa [ends] using mark
      simp only [findEnd, same, if_true, Search.found.injEq] at found
      rcases found with ⟨rfl, rfl⟩
      simp [completeFrom, completeLines, same, List.drop_length_add_append]
    | none =>
      by_cases feed : c = '\n'
      · simp only [findEnd, feed, if_true, Search.found.injEq] at found
        rcases found with ⟨rfl, rfl⟩
        rw [completeFrom.eq_def]
        simp [completeLines, feed, List.drop_length_add_append]
      · have return_ : c = '\r' := by simpa [ends, feed] using mark
        subst return_
        cases after with
        | nil => simp [findEnd] at found
        | cons d after =>
          by_cases pair : d = '\n'
          · subst pair
            simp only [findEnd, feed, if_false, if_true, Search.found.injEq] at found
            rcases found with ⟨rfl, rfl⟩
            simp [completeFrom, completeLines, List.drop_length_add_append]
          · have single : findEnd none false line.length ('\r' :: d :: after)
                = .found line.length (line.length + 1) := by
              simp [findEnd]
            rw [single, Search.found.injEq] at found
            rcases found with ⟨rfl, rfl⟩
            rw [List.drop_length_add_append]
            simp [completeFrom, completeLines]

theorem completeLines_of_unfinished {terminator : Terminator} {text : List Char} {resume : Nat}
    (unfinished : findEnd terminator false 0 text = .unfinished resume) :
    completeLines terminator text = [] := by
  obtain ⟨line, rest, rfl, quiet, nothing | ⟨c, after, rfl, mark⟩⟩ := exists_quiet terminator text
  · rw [completeLines, nothing, completeFrom_quiet quiet]
    rfl
  · rw [findEnd_quiet quiet, Nat.zero_add] at unfinished
    rw [completeLines, completeFrom_quiet quiet]
    cases terminator with
    | some own =>
      have same : c = own := by simpa [ends] using mark
      simp [findEnd, same] at unfinished
    | none =>
      by_cases feed : c = '\n'
      · simp [findEnd, feed] at unfinished
      · have return_ : c = '\r' := by simpa [ends, feed] using mark
        subst return_
        cases after with
        | nil => simp [completeFrom]
        | cons d after =>
          by_cases pair : d = '\n'
          · subst pair
            simp [findEnd] at unfinished
          · simp [findEnd] at unfinished

/-- **However a text goes on, its complete lines are the first of its lines.** -/
theorem completeLines_append (terminator : Terminator) (text more : List Char) :
    ∃ others, splitLines terminator (text ++ more) = completeLines terminator text ++ others := by
  generalize size : text.length = n
  induction n using Nat.strongRecOn generalizing text with
  | ind n ih =>
    cases search : findEnd terminator false 0 text with
    | unfinished resume =>
      rw [completeLines_of_unfinished search]
      exact ⟨_, rfl⟩
    | found stop next =>
      have whole := completeLines_of_found search []
      simp only [List.append_nil] at whole
      rw [splitLines_of_found search more (by simp), whole]
      have shorter : (text.drop next).length < n := by
        obtain ⟨some, -, taken⟩ := findEnd_found search
        have : text.length ≠ 0 := by simpa using some
        rw [List.length_drop]
        omega
      obtain ⟨others, split⟩ := ih _ shorter (text.drop next) rfl
      exact ⟨others, by rw [split, List.cons_append]⟩

end Line

section

variable [MultibyteCodecs]

/-- **The text of the bytes read so far**; a character that is not complete yet is no part
    of it. -/
def Charset.decodeSoFar (charset : Charset) (bytes : List UInt8) : List Char :=
  ((Decoder.new charset).feed bytes).1

/-! ### Reads before a failure -/

/-- A read after which the source goes on: it gives some bytes, or it was interrupted. -/
def Reading.GoesOn : Reading → Prop
  | .data bytes => bytes ≠ []
  | .failure reason => reason.kind = .interrupted

instance : DecidablePred Reading.GoesOn
  | .data bytes => inferInstanceAs (Decidable (bytes ≠ []))
  | .failure reason => inferInstanceAs (Decidable (reason.kind = .interrupted))

namespace Source

omit [MultibyteCodecs] in
theorem goesOn_inBlocks {before : Source} (steady : ∀ reading ∈ before, reading.GoesOn) :
    ∀ reading ∈ before.inBlocks, reading.GoesOn := by
  intro reading inside
  obtain ⟨item, member, served⟩ := List.mem_flatMap.mp inside
  have goesOn := steady item member
  cases item with
  | failure failure =>
    rw [List.mem_singleton.mp served]
    exact goesOn
  | data bytes =>
    cases bytes with
    | nil => exact absurd rfl goesOn
    | cons b bytes =>
      obtain ⟨piece, cut, rfl⟩ := List.mem_map.mp served
      exact pieces_nonempty cut

omit [MultibyteCodecs] in
theorem inBlocks_before (before : Source) {failure : IoFailure} (after : Source) :
    inBlocks (before ++ .failure failure :: after) =
      before.inBlocks ++ .failure failure :: after.inBlocks := by
  simp [inBlocks, blocksOf]

end Source

/-! ### The reader -/

namespace LineBuffer

/-- The complete lines of the text at hand and of some more bytes. -/
def complete (buffer : LineBuffer) (bytes : List UInt8) : List (List Char) :=
  Line.completeLines buffer.terminator (buffer.backlog ++ (buffer.decoder.feed bytes).1)

theorem complete_feed (buffer : LineBuffer) (block bytes : List UInt8) :
    (buffer.feed block).complete bytes = buffer.complete (block ++ bytes) := by
  simp only [complete, feed, Decoder.feed_append, List.append_assoc]

variable {buffer after : LineBuffer}

theorem Settled.complete_some (settled : buffer.Settled) (reading : buffer.ended = false)
    {line : List Char} (h : buffer.cut = (some line, after)) (bytes : List UInt8) :
    buffer.complete bytes = line :: after.complete bytes := by
  unfold cut at h
  split at h
  · rename_i stop next found
    rw [settled.search_eq, reading] at found
    cases h
    exact Line.completeLines_of_found found _
  · cases h

omit [MultibyteCodecs] in
/-- Where nothing was cut off, no line of the text at hand is complete. -/
theorem Settled.completeLines_eq_nil (settled : buffer.Settled) (reading : buffer.ended = false)
    (h : buffer.cut = (none, after)) :
    Line.completeLines buffer.terminator buffer.backlog = [] := by
  unfold cut at h
  split at h
  · cases h
  · rename_i resume unfinished
    rw [settled.search_eq, reading] at unfinished
    exact Line.completeLines_of_unfinished unfinished

theorem Settled.complete_none (settled : buffer.Settled) (reading : buffer.ended = false)
    (h : buffer.cut = (none, after)) : buffer.complete [] = [] := by
  simpa [complete, Decoder.feed, DecoderState.run, Decoder.dropMark] using
    settled.completeLines_eq_nil reading h

end LineBuffer

end

namespace LineReader

/-- **The invariant of a reader on its way to a failure**: `before` is what its source still
    gives ahead of the failure, `later` what would come after it. -/
structure Heading (reader : LineReader) (before : Source) (failure : IoFailure)
    (later : Source) : Prop where
  working : reader.failed = false
  reading : reader.buffer.ended = false
  settled : reader.buffer.Settled
  ahead : reader.source = before ++ .failure failure :: later
  steady : ∀ reading ∈ before, reading.GoesOn

/-- A reader that has failed, and the reads that it did not make. -/
structure Stopped (reader : LineReader) (later : Source) : Prop where
  failed : reader.failed = true
  unread : reader.source = later

section

variable [MultibyteCodecs]

/-- What a call answers that owes some complete lines and then a failure. -/
def Answers (failure : IoFailure) (later : Source) :
    List (List Char) → Option (Except IoFailure (List Char)) × LineReader → Prop
  | [], step => step.1 = some (.error failure) ∧ step.2.Stopped later
  | line :: lines, step =>
    step.1 = some (.ok line)
      ∧ ∃ before, step.2.Heading before failure later
        ∧ step.2.buffer.complete before.bytes = lines

variable {failure : IoFailure} {before later : Source}

theorem answers_cut {buffer after : LineBuffer} {line : List Char} (settled : buffer.Settled)
    (reading : buffer.ended = false) (cut : buffer.cut = (some line, after))
    (steady : ∀ reading ∈ before, reading.GoesOn) :
    Answers failure later (buffer.complete before.bytes)
      (some (.ok line), ⟨after, before ++ .failure failure :: later, false⟩) := by
  rw [settled.complete_some reading cut]
  obtain ⟨same, -⟩ := settled.cut_some cut
  refine ⟨rfl, before, ?_, rfl⟩
  constructor
  · rfl
  · rw [same]
    exact reading
  · rw [same]
    exact LineBuffer.settled_of_unscanned rfl
  · rfl
  · exact steady

/-- **A pull answers with the first complete line** of the text at hand and the bytes ahead of
    the failure, or with the failure. -/
theorem answers_pull {buffer : LineBuffer} (fatal : failure.kind ≠ .interrupted)
    (settled : buffer.Settled) (reading : buffer.ended = false)
    (steady : ∀ reading ∈ before, reading.GoesOn) :
    Answers failure later (buffer.complete before.bytes)
      (pull buffer (before ++ .failure failure :: later)) := by
  -- A read that completes no line leaves a settled buffer, so the induction is on the reads
  -- ahead of the failure and over all such buffers.
  induction before generalizing buffer with
  | nil =>
    cases cut : buffer.cut with
    | mk handed after =>
      cases handed with
      | some line =>
        have first := @answers_cut _ failure _ later _ _ _ settled reading cut steady
        simpa only [pull, cut] using first
      | none =>
        rw [Source.bytes, settled.complete_none reading cut, List.nil_append, pull, cut]
        simp only [if_neg fatal]
        exact ⟨rfl, rfl, rfl⟩
  | cons read before ih =>
    rcases List.forall_mem_cons.mp steady with ⟨here, others⟩
    cases cut : buffer.cut with
    | mk handed after =>
      cases handed with
      | some line =>
        have first := @answers_cut _ failure _ later _ _ _ settled reading cut steady
        simpa only [pull, cut] using first
      | none =>
        obtain ⟨same, settled', -⟩ := settled.cut_none cut
        have reading' : after.ended = false := by rw [same]; exact reading
        have owed (bytes : List UInt8) : buffer.complete bytes = after.complete bytes := by
          rw [same]
          rfl
        rw [owed, List.cons_append, pull, cut]
        cases read with
        | failure reason =>
          have again : reason.kind = .interrupted := here
          simp only [Source.bytes, if_pos again]
          exact ih settled' reading' others
        | data block =>
          cases block with
          | nil => exact absurd rfl here
          | cons b block =>
            -- the text of the block moves from the bytes ahead to the text at hand
            have fed : (after.feed (b :: block)).Settled := settled'.grow _ _ _
            have more := ih fed reading' others
            rw [LineBuffer.complete_feed] at more
            exact more

theorem next_answers {reader : LineReader} (fatal : failure.kind ≠ .interrupted)
    (heading : reader.Heading before failure later) :
    Answers failure later (reader.buffer.complete before.bytes) reader.next := by
  have pulled := @answers_pull _ _ _ later _ fatal heading.settled heading.reading heading.steady
  rw [next, heading.working, heading.reading, heading.ahead]
  exact pulled

theorem Stopped.next_eq {reader : LineReader} (stopped : reader.Stopped later) :
    reader.next = (none, reader) := by
  rw [next, if_pos stopped.failed]

theorem Stopped.drain_eq {reader : LineReader} (stopped : reader.Stopped later) :
    reader.drain = ([], reader) := by
  rw [drain, stopped.next_eq]

/-- **All complete lines, then the failure**: what a reader hands out on its way to a failure. -/
theorem drain_of_heading {reader : LineReader} (fatal : failure.kind ≠ .interrupted)
    (heading : reader.Heading before failure later) :
    reader.drain.1 =
        (reader.buffer.complete before.bytes).map .ok ++ [.error failure]
      ∧ reader.drain.2.Stopped later := by
  induction reader using drain.induct generalizing before with
  | case1 reader after next =>
    have answer := next_answers fatal heading
    rw [next] at answer
    cases owed : reader.buffer.complete before.bytes with
    | nil =>
      rw [owed] at answer
      cases answer.1
    | cons line lines =>
      rw [owed] at answer
      cases answer.1
  | case2 reader item after next _ _ _ ih =>
    have answer := next_answers fatal heading
    rw [next] at answer
    rw [drain, next]
    cases owed : reader.buffer.complete before.bytes with
    | nil =>
      rw [owed] at answer
      rcases answer with ⟨first, stopped⟩
      cases first
      simp only [stopped.drain_eq]
      exact ⟨rfl, stopped⟩
    | cons line lines =>
      rw [owed] at answer
      rcases answer with ⟨first, before', heading', left⟩
      cases first
      obtain ⟨items, stopped⟩ := ih heading'
      rw [← left, List.map_cons, List.cons_append, ← items]
      exact ⟨rfl, stopped⟩

/-- **What a reader hands out when its source fails**: the complete lines of the text read
    before, then the failure, and nothing ever after; what the source holds behind the failure
    is not read. -/
theorem drain_new_of_failure (before after : Source) (failure : IoFailure)
    (steady : ∀ reading ∈ before, reading.GoesOn) (fatal : failure.kind ≠ .interrupted)
    (charset : Charset) (terminator : Line.Terminator) :
    let reader := new (before ++ .failure failure :: after) charset terminator
    reader.drain.1 =
        (Line.completeLines terminator (charset.decodeSoFar before.bytes)).map .ok
          ++ [.error failure]
      ∧ reader.drain.2.source = after.inBlocks
      ∧ ∀ calls, ((fun reader : LineReader => reader.next.2)^[calls] reader.drain.2).next =
          (none, reader.drain.2) := by
  intro reader
  have heading : reader.Heading before.inBlocks failure after.inBlocks := by
    constructor
    · rfl
    · rfl
    · exact LineBuffer.settled_of_unscanned rfl
    · exact Source.inBlocks_before before after
    · exact Source.goesOn_inBlocks steady
  obtain ⟨items, stopped⟩ := drain_of_heading fatal heading
  rw [(Source.content_inBlocks before).1] at items
  refine ⟨items, stopped.unread, ?_⟩
  intro calls
  have fixed : (fun reader : LineReader => reader.next.2) reader.drain.2 = reader.drain.2 := by
    simp only [stopped.next_eq]
  rw [Function.iterate_fixed fixed, stopped.next_eq]

end

/-- The reads cut a character in two; what is left when the source fails is a line without its
    end, half a character and a carriage return that could have been half of a line's end. -/
theorem drain_new_of_failure_unfinished :
    let before : Source :=
      [.data [0x61, 0x0D], .failure ⟨.interrupted, none⟩, .data [0x62, 0x0A, 0xC3],
        .data [0xA9, 0x0D]]
    let failure : IoFailure := ⟨.brokenPipe, some "source went away"⟩
    let reader := new (before ++ .failure failure :: [.data [0x0A]]) .utf8 none
    let reader' := new (before ++ .data [0x63, 0xC3] :: .failure failure :: []) .utf8 none
    reader.drain.1 = [.ok ['a'], .ok ['b'], .error failure]
      ∧ reader.drain.2.source = [.data [0x0A]]
      ∧ reader'.drain.1 = [.ok ['a'], .ok ['b'], .ok ['é'], .error failure] := by
  intro before failure reader reader'
  have pending := drain_new_of_failure before [.data [0x0A]] failure (by decide) (by decide) .utf8
    none
  have followed := drain_new_of_failure (before ++ [.data [0x63, 0xC3]]) [] failure (by decide)
    (by decide) .utf8 none
  refine ⟨pending.1.trans rfl, pending.2.1.trans ?_, followed.1.trans rfl⟩
  simp [Source.inBlocks, Source.blocksOf, pieces]

end LineReader

end FlatFile
