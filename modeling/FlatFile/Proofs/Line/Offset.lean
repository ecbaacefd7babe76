/-
  FlatFile/Proofs/Line/Offset.lean
  ================================
  **Searching on from an offset is searching from the start.**

  An offset at which a search starts is the length of a text in bytes, so what is found from
  there are the offsets of what counting characters finds (`Line.boundsFrom?_eq`).  There the
  byte of a line feed stands for the line feed, as no other character begins with that byte
  (`Text.exists_utf8EncodeChar_cons`).

  A reader at offsets is a `LineReader` with its text in UTF-8 (`LineReader.atOffsets`).
  Between two steps what was looked through ends no line, and a block is read only where a
  search found nothing (`LineReader.StandsAt`).  Each step either answers the call as that
  reader does, or leaves it to one with the same answer and less to do
  (`LineReader.StandsAt.keeps`).  By induction on the steps, a run meets no fault and the
  invariant holds after it (`exists_run?`); by induction on the work left, each call comes to
  its answer (`exists_answer`).  `OffsetReader.run?_inOrder` says what this comes to.
-/
import FlatFile.Charset.AsciiOnly
import FlatFile.Line.Offset
import FlatFile.Proofs.Column.Offset
import FlatFile.Proofs.Line.Failing

namespace FlatFile

/-! ### Bytes of texts -/

namespace Text

theorem length_utf8 (text : List Char) : (utf8 text).length = byteLength text := by
  induction text with
  | nil => rfl
  | cons c text ih =>
    rw [utf8] at ih ⊢
    rw [List.flatMap_cons, List.length_append, ih, String.length_utf8EncodeChar, byteLength_cons]

/-- The bytes behind an offset are those of the text behind it. -/
theorem utf8_getElem? (front rest : List Char) (index : Nat) :
    (utf8 (front ++ rest))[byteLength front + index]? = (utf8 rest)[index]? := by
  have split : utf8 (front ++ rest) = utf8 front ++ utf8 rest := List.flatMap_append
  rw [split, ← length_utf8, List.getElem?_append_right (Nat.le_add_right _ _),
    Nat.add_sub_cancel_left]

/-- **The first byte of a character is that of a line feed** for the line feed alone. -/
theorem exists_utf8EncodeChar_cons (c : Char) :
    ∃ b others, String.utf8EncodeChar c = b :: others ∧ (b = 0x0A ↔ c = '\n') := by
  have same : c = '\n' ↔ c.toNat = 10 := ⟨by rintro rfl; rfl, fun h => Char.toNat_inj.mp h⟩
  have byte : ∀ n : Nat, n < 256 → (UInt8.ofNat n = 0x0A ↔ n = 10) := by
    intro n range
    rw [← UInt8.toNat_inj, UInt8.toNat_ofNat', Nat.mod_eq_of_lt range]
    rfl
  have value : c.val.toNat = c.toNat := rfl
  rw [same, String.utf8EncodeChar, value]
  by_cases one : c.toNat ≤ 0x7F
  · rw [if_pos one]
    exact ⟨_, _, rfl, byte _ (by omega)⟩
  -- every other first byte is at least `0xC0`
  · rw [if_neg one]
    split
    · exact ⟨_, _, rfl, (byte _ (by omega)).trans (by omega)⟩
    · split
      · exact ⟨_, _, rfl, (byte _ (by omega)).trans (by omega)⟩
      · exact ⟨_, _, rfl, (byte _ (by omega)).trans (by omega)⟩

theorem utf8_first (c : Char) (rest : List Char) :
    ∃ b, (utf8 (c :: rest))[0]? = some b ∧ (b = 0x0A ↔ c = '\n') := by
  obtain ⟨b, others, encoded, feed⟩ := exists_utf8EncodeChar_cons c
  refine ⟨b, ?_, feed⟩
  rw [utf8, List.flatMap_cons, encoded]
  rfl

theorem findOffset?_append {wanted : Char → Bool} {line : List Char}
    (quiet : ∀ c ∈ line, wanted c = false) (rest : List Char) :
    findOffset? wanted (line ++ rest) = (findOffset? wanted rest).map (byteLength line + ·) := by
  induction line with
  | nil => simp
  | cons c line ih =>
    obtain ⟨here, others⟩ := List.forall_mem_cons.mp quiet
    rw [List.cons_append, findOffset?, here, if_neg Bool.false_ne_true, ih others, Option.map_map]
    congr 1
    funext offset
    simp only [Function.comp_apply, byteLength_cons, Nat.add_assoc]

theorem byteLength_take (front rest : List Char) (count : Nat) :
    byteLength ((front ++ rest).take (front.length + count)) =
      byteLength front + byteLength (rest.take count) := by
  rw [List.take_length_add_append, byteLength_append]

end Text

/-! ### The bounds of the first line -/

namespace Line

/-- What a search found, told by offsets into the text. -/
def Search.atOffsets (text : List Char) : Search → Option (Nat × Nat) × Nat
  | .found stop next =>
    (some (Text.byteLength (text.take stop), Text.byteLength (text.take next)), 0)
  | .unfinished resume => (none, Text.byteLength (text.take resume))

/-- **At a character that ends a line** the bytes decide as the characters do. -/
theorem boundsAt?_eq (terminator : Terminator) (ended : Bool) (front : List Char) {c : Char}
    (rest : List Char) (mark : ends terminator c = true) :
    boundsAt? terminator ended (front ++ c :: rest) (Text.byteLength front) =
      some ((findEnd terminator ended front.length (c :: rest)).atOffsets
        (front ++ c :: rest)) := by
  cases terminator with
  | some own =>
    have same : c = own := by simpa [ends] using mark
    simp [boundsAt?, findEnd, Search.atOffsets, same, Text.byteLength_take]
  | none =>
    obtain ⟨b, first, feed⟩ := Text.utf8_first c rest
    have byte : (Text.utf8 (front ++ c :: rest))[Text.byteLength front]? = some b := by
      have here := Text.utf8_getElem? front (c :: rest) 0
      rwa [Nat.add_zero, first] at here
    rw [boundsAt?, findEnd.eq_def]
    simp only [byte, Option.bind_eq_bind, Option.bind_some]
    by_cases lineFeed : c = '\n'
    · have one : '\n'.utf8Size = 1 := rfl
      simp [feed.mpr lineFeed, lineFeed, Search.atOffsets, Text.byteLength_take, one]
    · have carriageReturn : c = '\r' := by simpa [ends, lineFeed] using mark
      subst carriageReturn
      have one : '\r'.utf8Size = 1 := rfl
      have next := Text.utf8_getElem? (front ++ ['\r']) rest 0
      rw [List.append_assoc, List.singleton_append, Nat.add_zero, Text.byteLength_append,
        Text.byteLength_cons, one, Text.byteLength_nil] at next
      rw [if_neg (mt feed.mp lineFeed), if_neg lineFeed, if_pos rfl, next]
      cases rest with
      | nil => cases ended <;> simp [Text.utf8, Search.atOffsets, Text.byteLength_take, one]
      | cons d rest =>
        obtain ⟨b', first', feed'⟩ := Text.utf8_first d rest
        rw [first']
        by_cases pair : d = '\n'
        · have one' : '\n'.utf8Size = 1 := rfl
          simp [feed'.mpr pair, pair, Search.atOffsets, Text.byteLength_take, one, one']
        · simp [mt feed'.mp pair, Search.atOffsets, Text.byteLength_take, one]

/-- **Looking for bounds from an offset on** meets no fault, and finds the offsets of what is
    found by counting characters. -/
theorem boundsFrom?_eq (terminator : Terminator) (ended : Bool) (front rest : List Char) :
    boundsFrom? terminator ended (front ++ rest) (Text.byteLength front) =
      some ((findEnd terminator ended front.length rest).atOffsets (front ++ rest)) := by
  obtain ⟨line, tail, rfl, quiet, stop⟩ := exists_quiet terminator rest
  have passed := Text.findOffset?_append quiet tail
  rw [boundsFrom?, Text.fromOffset?_byteLength, Option.bind_eq_bind, Option.bind_some, passed,
    findEnd_quiet quiet]
  rcases stop with nothing | ⟨c, more, rfl, mark⟩
  · subst nothing
    have all : (front ++ line).take (front.length + line.length) = front ++ line := by
      rw [← List.length_append, List.take_length]
    simp [Text.findOffset?, findEnd, Search.atOffsets, all]
  · have here := boundsAt?_eq terminator ended (front ++ line) more mark
    rw [List.append_assoc, List.length_append, Text.byteLength_append] at here
    simpa [Text.findOffset?, mark] using here

end Line

/-! ### One step -/

namespace LineBuffer

variable {buffer after : LineBuffer}

/-- A search that found nothing finds nothing again. -/
theorem Settled.cut_again (settled : buffer.Settled) (h : buffer.cut = (none, after)) :
    after.cut = (none, after) := by
  obtain ⟨same, settled', -⟩ := settled.cut_none h
  unfold cut at h
  split at h
  · cases h
  · rename_i resume unfinished
    have search : after.search = .unfinished resume := by
      rw [settled'.search_eq, same, ← unfinished, settled.search_eq]
    cases h
    rw [cut, search]

end LineBuffer

section

variable [MultibyteCodecs]

namespace LineReader

open OffsetReader

variable {reader : LineReader} {task : Task}

/-- What some calls in a row answer. -/
def calls : Nat → LineReader → List LineAnswer
  | 0, _ => []
  | count + 1, reader => reader.next.1 :: calls count reader.next.2

/-- The reader with its text in UTF-8. -/
def atOffsets (reader : LineReader) (task : Task) : OffsetReader :=
  { task
    decoder := reader.buffer.decoder
    terminator := reader.buffer.terminator
    backlog := reader.buffer.backlog
    scanned := Text.byteLength (reader.buffer.backlog.take reader.buffer.scanned)
    ended := reader.buffer.ended
    failed := reader.failed
    source := reader.source }

/-- **The invariant of a reader between two steps.** -/
structure StandsAt (reader : LineReader) (task : Task) : Prop where
  settled : reader.buffer.Settled
  working : task ≠ .call → reader.failed = false
  /-- A block is read only when there is no line. -/
  unfinished : task = .fill →
    reader.buffer.ended = false ∧ reader.buffer.cut = (none, reader.buffer)
  bounded : reader.source.Bounded

section

omit [MultibyteCodecs]

theorem StandsAt.ofCall (settled : reader.buffer.Settled) (bounded : reader.source.Bounded) :
    reader.StandsAt .call :=
  ⟨settled, fun other => absurd rfl other, fun filling => absurd filling (by decide), bounded⟩

theorem StandsAt.ofSearch (settled : reader.buffer.Settled) (working : reader.failed = false)
    (bounded : reader.source.Bounded) : reader.StandsAt .search :=
  ⟨settled, fun _ => working, fun filling => absurd filling (by decide), bounded⟩

/-- The search at offsets finds what counting characters finds. -/
theorem StandsAt.bounds?_eq (stands : reader.StandsAt task) :
    (reader.atOffsets task).bounds? (reader.atOffsets task).scanned =
      some (reader.buffer.search.atOffsets reader.buffer.backlog) := by
  have bounds := Line.boundsFrom?_eq reader.buffer.terminator reader.buffer.ended
    (reader.buffer.backlog.take reader.buffer.scanned)
    (reader.buffer.backlog.drop reader.buffer.scanned)
  rw [List.take_append_drop, List.length_take, Nat.min_eq_left stands.settled.inside] at bounds
  exact bounds

theorem StandsAt.bounds?_zero (stands : reader.StandsAt task) :
    (reader.atOffsets task).bounds? 0 =
      some (reader.buffer.search.atOffsets reader.buffer.backlog) := by
  have bounds := Line.boundsFrom?_eq reader.buffer.terminator reader.buffer.ended []
    reader.buffer.backlog
  rw [List.nil_append, List.length_nil, ← stands.settled.search_eq] at bounds
  exact bounds

end

/-- What is left to do before a call is answered: reads, and the steps between them. -/
def work (reader : LineReader) (task : Task) : Nat :=
  3 * reader.source.length + (if reader.buffer.ended then 0 else 3)
    + match task with
      | .call => 2
      | .search => 1
      | .fill => 0

/-- What a step comes to: it answers the call as the reader does, or leaves it to a reader with
    the same answer and less work. -/
inductive Keeps (reader : LineReader) (task : Task) : Option Outcome → Prop where
  | moves {reader' : LineReader} {task' : Task} (stands : reader'.StandsAt task')
      (same : reader'.next = reader.next) (less : reader'.work task' < reader.work task) :
      Keeps reader task (some (.moves (reader'.atOffsets task')))
  | answers (stands : reader.next.2.StandsAt .call) :
      Keeps reader task (some (.answers reader.next.1 (reader.next.2.atOffsets .call)))

theorem keeps_call (stands : reader.StandsAt .call) :
    reader.Keeps .call (reader.atOffsets .call).step? := by
  by_cases failed : reader.failed = true
  · have answer : reader.next = (none, reader) := by rw [next, if_pos failed]
    have step : (reader.atOffsets .call).step? =
        some (.answers reader.next.1 (reader.next.2.atOffsets .call)) := by
      rw [answer]
      exact if_pos failed
    rw [step]
    apply Keeps.answers
    rw [answer]
    exact stands
  · have step : (reader.atOffsets .call).step? = some (.moves (reader.atOffsets .search)) :=
      if_neg failed
    rw [step]
    have stands' : reader.StandsAt .search :=
      .ofSearch stands.settled (by simpa using failed) stands.bounded
    exact .moves stands' rfl (Nat.lt_succ_self _)

theorem next_of_reading (working : reader.failed = false) (reading : reader.buffer.ended = false) :
    reader.next = pull reader.buffer reader.source := by
  rw [next, working, reading]
  rfl

theorem next_of_ended (working : reader.failed = false) (ended : reader.buffer.ended = true) :
    reader.next =
      (reader.buffer.cutLast.1.map .ok, { reader with buffer := reader.buffer.cutLast.2 }) := by
  rw [next, working, ended]
  rfl

theorem next_of_cut_some {line : List Char} {after : LineBuffer} (working : reader.failed = false)
    (cut : reader.buffer.cut = (some line, after)) :
    reader.next = (some (.ok line), { reader with buffer := after }) := by
  by_cases ended : reader.buffer.ended = true
  · rw [next_of_ended working ended, LineBuffer.cutLast, cut]
    rfl
  · rw [next_of_reading working (by simpa using ended), pull.eq_def, cut, working]

theorem pull_of_cut_none {buffer after : LineBuffer} (cut : buffer.cut = (none, after))
    (again : after.cut = (none, after)) (source : Source) :
    pull after source = pull buffer source := by
  rw [pull.eq_def, again, pull.eq_def buffer, cut]

/-- A search that found the first line hands it out. -/
theorem keeps_search_found (stands : reader.StandsAt .search) {stop next : Nat}
    (found : reader.buffer.search = .found stop next) :
    reader.Keeps .search (reader.atOffsets .search).search? := by
  have cut : reader.buffer.cut = (some (reader.buffer.backlog.take stop),
      { reader.buffer with backlog := reader.buffer.backlog.drop next, scanned := 0 }) := by
    rw [LineBuffer.cut, found]
  have answer := next_of_cut_some (stands.working (by decide)) cut
  have line := Text.upToOffset?_byteLength (reader.buffer.backlog.take stop)
    (reader.buffer.backlog.drop stop)
  have rest := Text.fromOffset?_byteLength (reader.buffer.backlog.take next)
    (reader.buffer.backlog.drop next)
  rw [List.take_append_drop] at line rest
  have step : (reader.atOffsets .search).search? =
      some (.answers reader.next.1 (reader.next.2.atOffsets .call)) := by
    rw [search?, stands.bounds?_eq, found, answer]
    simp only [Line.Search.atOffsets, atOffsets, line, rest, Option.bind_eq_bind, Option.bind_some]
    rfl
  rw [step]
  apply Keeps.answers
  rw [answer]
  exact .ofCall (LineBuffer.settled_of_unscanned rfl) stands.bounded

/-- Without more text to come, the rest of the text is the last line. -/
theorem keeps_search_last (stands : reader.StandsAt .search) (ended : reader.buffer.ended = true)
    {resume : Nat} (unfinished : reader.buffer.search = .unfinished resume) :
    reader.Keeps .search (reader.atOffsets .search).search? := by
  have cut : reader.buffer.cut = (none, { reader.buffer with scanned := resume }) := by
    rw [LineBuffer.cut, unfinished]
  have answer := next_of_ended (stands.working (by decide)) ended
  have step : (reader.atOffsets .search).search? =
      some (.answers reader.next.1 (reader.next.2.atOffsets .call)) := by
    rw [search?, stands.bounds?_eq, unfinished, answer, LineBuffer.cutLast, cut]
    simp only [Line.Search.atOffsets, atOffsets, ended, Option.bind_eq_bind, Option.bind_some,
      if_true]
    split
    · rfl
    · rfl
  rw [step]
  apply Keeps.answers
  rw [answer]
  obtain ⟨-, settled, -⟩ := stands.settled.cutLast_eq ended
  exact .ofCall settled stands.bounded

/-- With more text to come, a block is read. -/
theorem keeps_search_unfinished (stands : reader.StandsAt .search)
    (reading : reader.buffer.ended = false) {resume : Nat}
    (unfinished : reader.buffer.search = .unfinished resume) :
    reader.Keeps .search (reader.atOffsets .search).search? := by
  have working : reader.failed = false := stands.working (by decide)
  have cut : reader.buffer.cut = (none, { reader.buffer with scanned := resume }) := by
    rw [LineBuffer.cut, unfinished]
  obtain ⟨-, settled, -⟩ := stands.settled.cut_none cut
  have again := stands.settled.cut_again cut
  have stands' : StandsAt
      { reader with buffer := { reader.buffer with scanned := resume } } .fill :=
    ⟨settled, fun _ => working, fun _ => ⟨reading, again⟩, stands.bounded⟩
  have same : next { reader with buffer := { reader.buffer with scanned := resume } } =
      reader.next := by
    rw [next_of_reading working reading, ← pull_of_cut_none cut again]
    exact next_of_reading working reading
  have step : (reader.atOffsets .search).search? = some (.moves
      (atOffsets { reader with buffer := { reader.buffer with scanned := resume } } .fill)) := by
    rw [search?, stands.bounds?_eq, unfinished]
    simp only [Line.Search.atOffsets, atOffsets, reading, Option.bind_eq_bind, Option.bind_some]
    rfl
  rw [step]
  exact .moves stands' same (Nat.lt_succ_self _)

theorem keeps_search (stands : reader.StandsAt .search) :
    reader.Keeps .search (reader.atOffsets .search).step? := by
  have step : (reader.atOffsets .search).step? = (reader.atOffsets .search).search? := rfl
  rw [step]
  cases search : reader.buffer.search with
  | found stop next => exact keeps_search_found stands search
  | unfinished resume =>
    by_cases ended : reader.buffer.ended = true
    · exact keeps_search_last stands ended search
    · exact keeps_search_unfinished stands (by simpa using ended) search

theorem StandsAt.grow_close (stands : reader.StandsAt .fill) (rest : Source) :
    (reader.atOffsets .fill).grow [] rest =
      atOffsets { reader with buffer := reader.buffer.close, source := rest } .search := by
  have scanned : (reader.buffer.backlog ++ reader.buffer.decoder.finish).take
      reader.buffer.scanned = reader.buffer.backlog.take reader.buffer.scanned :=
    List.take_append_of_le_length stands.settled.inside
  simp [grow, textOf, atOffsets, LineBuffer.close, scanned]

theorem StandsAt.grow_feed (stands : reader.StandsAt .fill) {block : List UInt8}
    (filled : block ≠ []) (rest : Source) :
    (reader.atOffsets .fill).grow block rest =
      atOffsets { reader with buffer := reader.buffer.feed block, source := rest } .search := by
  have scanned : (reader.buffer.backlog ++ (reader.buffer.decoder.feed block).1).take
      reader.buffer.scanned = reader.buffer.backlog.take reader.buffer.scanned :=
    List.take_append_of_le_length stands.settled.inside
  simp [grow, textOf, atOffsets, LineBuffer.feed, scanned, filled]

/-- The end of the source brings the text that the decoder still owes. -/
theorem keeps_close (stands : reader.StandsAt .fill) {rest : Source} (bounded : rest.Bounded)
    (shorter : rest.length ≤ reader.source.length)
    (answer : reader.next = (reader.buffer.close.cutLast.1.map .ok,
      ⟨reader.buffer.close.cutLast.2, rest, false⟩)) :
    reader.Keeps .fill (some (.moves ((reader.atOffsets .fill).grow [] rest))) := by
  have working : reader.failed = false := stands.working (by decide)
  obtain ⟨reading, -⟩ := stands.unfinished rfl
  have closed : reader.buffer.close.Settled := stands.settled.grow _ _ _
  have stands' : StandsAt { reader with buffer := reader.buffer.close, source := rest } .search :=
    .ofSearch closed working bounded
  rw [stands.grow_close]
  apply Keeps.moves stands'
  · rw [answer, working]
    exact next_of_ended rfl rfl
  · simp only [work, LineBuffer.close, reading, if_true, Bool.false_eq_true, if_false]
    omega

/-- Some bytes more bring their text. -/
theorem keeps_feed (stands : reader.StandsAt .fill) {b : UInt8} {block : List UInt8} {rest : Source}
    (source : reader.source = .data (b :: block) :: rest)
    (answer : reader.next = pull (reader.buffer.feed (b :: block)) rest) :
    reader.Keeps .fill (some (.moves ((reader.atOffsets .fill).grow (b :: block) rest))) := by
  have working : reader.failed = false := stands.working (by decide)
  obtain ⟨reading, -⟩ := stands.unfinished rfl
  have fed : (reader.buffer.feed (b :: block)).Settled := stands.settled.grow _ _ _
  have stands' : StandsAt
      { reader with buffer := reader.buffer.feed (b :: block), source := rest } .search :=
    .ofSearch fed working (source ▸ stands.bounded : Source.Bounded (_ :: rest)).tail
  rw [stands.grow_feed (List.cons_ne_nil b block)]
  apply Keeps.moves stands'
  · rw [answer]
    exact next_of_reading working reading
  · simp only [work, LineBuffer.feed, reading, source, List.length_cons]
    omega

/-- A read that was interrupted is tried again. -/
theorem keeps_retry (stands : reader.StandsAt .fill) {reading : Reading} {rest : Source}
    (source : reader.source = reading :: rest) (answer : reader.next = pull reader.buffer rest) :
    reader.Keeps .fill (some (.moves { reader.atOffsets .fill with source := rest })) := by
  have working : reader.failed = false := stands.working (by decide)
  have stands' : StandsAt { reader with source := rest } .fill :=
    ⟨stands.settled, fun _ => working, stands.unfinished,
      (source ▸ stands.bounded : Source.Bounded (_ :: rest)).tail⟩
  apply Keeps.moves stands'
  · rw [answer]
    exact next_of_reading working (stands.unfinished rfl).1
  · simp only [work, source, List.length_cons]
    omega

/-- **A read** answers the call if it fails, and leaves it to a reader with its text if not. -/
theorem keeps_fill (stands : reader.StandsAt .fill) :
    reader.Keeps .fill (reader.atOffsets .fill).step? := by
  obtain ⟨reading, cut⟩ := stands.unfinished rfl
  have answer := next_of_reading (stands.working (by decide)) reading
  rw [pull.eq_def, cut] at answer
  have step : (reader.atOffsets .fill).step? = some (reader.atOffsets .fill).fill := rfl
  have unread : (reader.atOffsets .fill).source = reader.source := rfl
  have bounded := stands.bounded
  rw [step, fill, unread]
  cases source : reader.source with
  | nil =>
    rw [source] at answer bounded
    exact keeps_close stands bounded (Nat.zero_le _) answer
  | cons read rest =>
    rw [source] at answer bounded
    cases read with
    | data block =>
      cases block with
      | nil => exact keeps_close stands bounded.tail (by simp [source]) answer
      | cons b block => exact keeps_feed stands source answer
    | failure failure =>
      by_cases again : failure.kind = .interrupted
      · simp only [if_pos again] at answer ⊢
        exact keeps_retry stands source answer
      · simp only [if_neg again] at answer ⊢
        have kept : reader.Keeps .fill
            (some (.answers reader.next.1 (reader.next.2.atOffsets .call))) := by
          apply Keeps.answers
          rw [answer]
          exact .ofCall stands.settled bounded.tail
        rwa [answer] at kept

/-- **Each step goes on with a call or answers it** as the reader does. -/
theorem StandsAt.keeps (stands : reader.StandsAt task) :
    reader.Keeps task (reader.atOffsets task).step? := by
  cases task with
  | call => exact keeps_call stands
  | search => exact keeps_search stands
  | fill => exact keeps_fill stands

/-- **Any steps in a row** meet no fault, and answer calls as the reader does. -/
theorem StandsAt.exists_run? (stands : reader.StandsAt task) (steps : Nat) :
    ∃ (answers : List LineAnswer) (after : LineReader) (task' : Task),
      run? steps (reader.atOffsets task) = some (answers, after.atOffsets task')
        ∧ after.StandsAt task' ∧ answers = reader.calls answers.length := by
  induction steps generalizing reader task with
  | zero => exact ⟨[], reader, task, rfl, stands, rfl⟩
  | succ steps ih =>
    have kept := stands.keeps
    generalize step : (reader.atOffsets task).step? = outcome at kept
    cases kept with
    | @moves reader' task' stands' same less =>
      obtain ⟨answers, after, task'', run, stands'', told⟩ := ih stands'
      refine ⟨answers, after, task'', ?_, stands'', ?_⟩
      · rw [run?, step]
        exact run
      · cases answers with
        | nil => rfl
        | cons answer answers => rwa [List.length_cons, calls, same, ← calls] at told
    | answers stands' =>
      obtain ⟨answers, after, task'', run, stands'', told⟩ := ih stands'
      refine ⟨reader.next.1 :: answers, after, task'', ?_, stands'', ?_⟩
      · rw [run?, step]
        simp only [Option.bind_eq_bind, Option.bind_some, run]
        rfl
      · rw [List.length_cons, calls, ← told]

/-- **Each call comes to its answer**, whatever the steps after it. -/
theorem StandsAt.exists_answer (stands : reader.StandsAt task) :
    reader.next.2.StandsAt .call ∧ ∃ steps, ∀ later,
      run? (steps + later) (reader.atOffsets task) =
        (run? later (reader.next.2.atOffsets .call)).map fun (answers, after) =>
          (reader.next.1 :: answers, after) := by
  generalize size : reader.work task = work
  induction work using Nat.strongRecOn generalizing reader task with
  | ind work ih =>
    have kept := stands.keeps
    generalize step : (reader.atOffsets task).step? = outcome at kept
    cases kept with
    | @moves reader' task' stands' same less =>
      obtain ⟨stands'', steps, run⟩ := ih _ (size ▸ less) stands' rfl
      rw [same] at stands'' run
      refine ⟨stands'', steps + 1, ?_⟩
      intro later
      rw [Nat.add_right_comm, run?, step]
      exact run later
    | answers stands' =>
      refine ⟨stands', 1, ?_⟩
      intro later
      rw [Nat.add_comm, run?, step]
      simp only [Option.bind_eq_bind, Option.bind_some]
      cases run? later (reader.next.2.atOffsets .call) with
      | none => rfl
      | some last => rfl

theorem StandsAt.exists_run?_calls (stands : reader.StandsAt .call) (count : Nat) :
    ∃ steps after, run? steps (reader.atOffsets .call) = some (reader.calls count, after) := by
  induction count generalizing reader with
  | zero => exact ⟨0, _, rfl⟩
  | succ count ih =>
    obtain ⟨stands', steps, run⟩ := stands.exists_answer
    obtain ⟨later, after, others⟩ := ih stands'
    exact ⟨steps + later, after, by rw [run, others]; rfl⟩

end LineReader

/-! ### Readers at offsets -/

namespace OffsetReader

/-- **What is in order between any two steps.** -/
structure InOrder (reader : OffsetReader) : Prop where
  /-- The next search starts where a character begins or the text ends, and no line ends
      before. -/
  boundary : ∃ front rest, reader.backlog = front ++ rest
    ∧ reader.scanned = Text.byteLength front ∧ Line.Quiet reader.terminator front
  /-- It finds what a search from the start finds. -/
  restart : ∃ bounds, reader.bounds? reader.scanned = some bounds ∧ reader.bounds? 0 = some bounds
  /-- A block is read only when no line is complete. -/
  incomplete : reader.task = .fill →
    reader.failed = false ∧ reader.ended = false
      ∧ Line.completeLines reader.terminator reader.backlog = []
  /-- Behind the text of an unfinished line comes that of a single read. -/
  filled : reader.task = .fill → ∀ after, reader.step? = some (.moves after) →
    (after.task = .fill ∧ after.backlog = reader.backlog)
      ∨ (after.task = .search ∧ ∃ block, reader.source.headD (.data []) = .data block
        ∧ block.length ≤ blockSize ∧ after.backlog = reader.backlog ++ reader.textOf block)

theorem filled_of_bounded {reader after : OffsetReader} (bounded : reader.source.Bounded)
    (filling : reader.task = .fill) (step : reader.step? = some (.moves after)) :
    (after.task = .fill ∧ after.backlog = reader.backlog)
      ∨ (after.task = .search ∧ ∃ block, reader.source.headD (.data []) = .data block
        ∧ block.length ≤ blockSize ∧ after.backlog = reader.backlog ++ reader.textOf block) := by
  have taken : reader.fill = .moves after := by
    rw [step?, filling] at step
    exact Option.some.inj step
  rw [fill] at taken
  cases source : reader.source with
  | nil =>
    rw [source] at taken
    cases taken
    exact .inr ⟨rfl, [], rfl, Nat.zero_le _, rfl⟩
  | cons read rest =>
    rw [source] at taken bounded
    cases read with
    | data block =>
      cases taken
      exact .inr ⟨rfl, block, rfl, bounded block List.mem_cons_self, rfl⟩
    | failure failure =>
      by_cases again : failure.kind = .interrupted
      · simp only [if_pos again] at taken
        cases taken
        exact .inl ⟨filling, rfl⟩
      · simp only [if_neg again] at taken
        cases taken

end OffsetReader

theorem LineReader.StandsAt.inOrder {reader : LineReader} {task : OffsetReader.Task}
    (stands : reader.StandsAt task) : (reader.atOffsets task).InOrder := by
  constructor
  · exact ⟨_, _, (List.take_append_drop reader.buffer.scanned reader.buffer.backlog).symm, rfl,
      stands.settled.quiet⟩
  · exact ⟨_, stands.bounds?_eq, stands.bounds?_zero⟩
  · rintro rfl
    obtain ⟨reading, cut⟩ := stands.unfinished rfl
    exact ⟨stands.working (by decide), reading, stands.settled.completeLines_eq_nil reading cut⟩
  · intro filling after step
    exact OffsetReader.filled_of_bounded stands.bounded filling step

theorem LineReader.standsAt_new (source : Source) (charset : Charset)
    (terminator : Line.Terminator) : (new source charset terminator).StandsAt .call :=
  .ofCall (LineBuffer.settled_of_unscanned rfl) (Source.bounded_inBlocks source)

/-- **Between any two steps all is in order**, whatever the reads, the charset and the
    terminator and however many calls there are: no step meets a fault, the next search starts
    at a character and finds what one from the start finds, and a block is read only behind
    the text of an unfinished line.  The calls are answered as by the reader that counts
    characters, and each of them comes to its answer. -/
theorem OffsetReader.run?_inOrder (source : Source) (charset : Charset)
    (terminator : Line.Terminator) :
    (∀ steps, ∃ answers reader, run? steps (new source charset terminator) = some (answers, reader)
        ∧ reader.InOrder
        ∧ answers = (LineReader.new source charset terminator).calls answers.length)
      ∧ ∀ count, ∃ steps reader, run? steps (new source charset terminator) =
          some ((LineReader.new source charset terminator).calls count, reader) := by
  have stands := LineReader.standsAt_new source charset terminator
  constructor
  · intro steps
    obtain ⟨answers, after, task, run, stands', told⟩ := stands.exists_run? steps
    exact ⟨answers, after.atOffsets task, run, stands'.inOrder, told⟩
  · intro count
    exact stands.exists_run?_calls count

end

/-- The reads cut a character and a line ending in two: after the second one the text at hand
    ends with a return that may go on, and the third one brings what follows it. -/
theorem OffsetReader.run?_inOrder_resumed :
    ∃ answers reader after, run? 7 (new [.data [0xC3], .failure ⟨.interrupted, none⟩,
          .data [0xA9, 0x0D], .data [0x0A, 0x62]] .utf8 none) = some (answers, reader)
      ∧ reader.task = .fill ∧ reader.scanned = 2
      ∧ reader.backlog = ['é', '\r'] ∧ Line.completeLines none reader.backlog = []
      ∧ reader.step? = some (.moves after)
      ∧ after.backlog = reader.backlog ++ reader.textOf [0x0A, 0x62] := by
  have blocks : Source.inBlocks [.data [0xC3], .failure ⟨.interrupted, none⟩, .data [0xA9, 0x0D],
      .data [0x0A, 0x62]] = [.data [0xC3], .failure ⟨.interrupted, none⟩, .data [0xA9, 0x0D],
      .data [0x0A, 0x62]] := by
    simp [Source.inBlocks, Source.blocksOf, pieces, blockSize]
  obtain ⟨always, -⟩ := run?_inOrder [.data [0xC3], .failure ⟨.interrupted, none⟩,
    .data [0xA9, 0x0D], .data [0x0A, 0x62]] .utf8 none
  obtain ⟨answers, reader, run, order, -⟩ := always 7
  have resumed : (run? 7 ⟨.call, .new .utf8, none, [], 0, false, false, [.data [0xC3],
      .failure ⟨.interrupted, none⟩, .data [0xA9, 0x0D], .data [0x0A, 0x62]]⟩).map Prod.snd =
      some ⟨.fill, ⟨.utf8 .idle, false⟩, none, ['é', '\r'], 2, false, false,
        [.data [0x0A, 0x62]]⟩ := by decide +kernel
  rw [new, blocks] at run ⊢
  rw [run] at resumed
  obtain rfl := Option.some.inj resumed
  obtain ⟨-, -, nothing⟩ := order.incomplete rfl
  rcases order.filled rfl _ rfl with ⟨retried, -⟩ | ⟨-, block, read, -, text⟩
  · cases retried
  · cases read
    exact ⟨_, _, _, run, rfl, rfl, rfl, nothing, rfl, text⟩

end FlatFile
