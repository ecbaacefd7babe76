/-
  FlatFile/Proofs/Recovery/Transcoder.lean
  ========================================
  **A transcoder serves the document, whatever it is asked for.**

  What a transcoder owes is what it holds and the text of the bytes to come, in UTF-8
  (`Transcoder.owed`).  Decoding on moves bytes from the second part to the first one and
  changes nothing in the whole; an answer takes bytes from its front.  So the answers to
  any requests, put together, are the beginning of the document as it is decoded at once
  (`Transcoder.serves_new`), however the source is cut into reads and wherever its
  characters are cut by them.

  The windows in which a recovery reads are such answers: as many characters as begin in
  the bytes served (`Transcoder.windows_of_reads`).
-/
import FlatFile.Proofs.Charset.Utf8
import FlatFile.Proofs.Stream.Content
import FlatFile.Recovery.Run
import FlatFile.Recovery.Transcoder
import Mathlib.Data.List.Basic

namespace FlatFile

namespace Transcoder

variable {transcoder : Transcoder}

/-! ### What is owed -/

variable [MultibyteCodecs]

/-- What a transcoder has still to serve. -/
def owed (transcoder : Transcoder) : List UInt8 :=
  transcoder.pending ++
    if transcoder.ended then []
    else Charset.utf8.encode (transcoder.decoder.rest transcoder.source.bytes)

/-- No read that is still made fails. -/
def Unfailing (transcoder : Transcoder) : Prop :=
  transcoder.ended = false → transcoder.source.failure? = none

omit [MultibyteCodecs] in
theorem unfailing_of_ended (ended : transcoder.ended = true) : transcoder.Unfailing := by
  intro reading
  rw [ended] at reading
  cases reading

theorem owed_new (charset : Charset) (source : Source) :
    (new charset source).owed = Charset.utf8.encode (charset.decode source.bytes) := by
  simp only [new, owed, (Source.content_inBlocks source).1, Decoder.rest_new]
  rfl

theorem unfailing_new {source : Source} (served : source.failure? = none) (charset : Charset) :
    (new charset source).Unfailing :=
  fun _ => (Source.content_inBlocks source).2.trans served

/-- **Decoding on** changes nothing in what is owed, and stops with nothing at hand only at the end
    of the document. -/
theorem exists_fill {source : Source} (served : source.failure? = none) (decoder : Decoder) :
    ∃ next, fill decoder source = (none, next) ∧ next.Unfailing
      ∧ next.owed = Charset.utf8.encode (decoder.rest source.bytes)
      ∧ (next.pending = [] → next.ended = true) := by
  induction source generalizing decoder with
  | nil =>
    refine ⟨_, rfl, unfailing_of_ended rfl, ?_, fun _ => rfl⟩
    rw [Source.bytes, Decoder.rest_nil]
    exact List.append_nil _
  | cons reading rest ih =>
    cases reading with
    | failure failure =>
      rw [Source.failure?] at served
      by_cases retried : failure.kind = .interrupted
      · rw [if_pos retried] at served
        simp only [fill, Source.bytes, if_pos retried]
        exact ih served decoder
      · rw [if_neg retried] at served
        cases served
    | data block =>
      cases block with
      | nil =>
        refine ⟨_, rfl, unfailing_of_ended rfl, ?_, fun _ => rfl⟩
        rw [Source.bytes, Decoder.rest_nil]
        exact List.append_nil _
      | cons b bytes =>
        rw [Source.failure?] at served
        simp only [fill, Source.bytes, Decoder.rest_append, Charset.Charwise.utf8.encode_append]
        by_cases nothing : Charset.utf8.encode (decoder.feed (b :: bytes)).1 = []
        · -- No character is complete, and the answer is left to the next block.
          rw [if_pos (List.isEmpty_iff.mpr nothing), nothing, List.nil_append]
          exact ih served _
        · rw [if_neg (mt List.isEmpty_iff.mp nothing)]
          exact ⟨_, rfl, fun _ => served, rfl, fun empty => absurd empty nothing⟩

/-! ### Answers -/

/-- **The answer to a request**: it fits, it is the front of what is owed, and there is none only
    if nothing was asked for or nothing is left. -/
structure Answers (transcoder : Transcoder) (room : Nat) (answer : List UInt8)
    (next : Transcoder) : Prop where
  unfailing : next.Unfailing
  front : transcoder.owed = answer ++ next.owed
  fits : answer.length ≤ room
  ends : answer = [] → room = 0 ∨ next.owed = []

theorem answers_serve {before : Transcoder} (unfailing : transcoder.Unfailing)
    (same : before.owed = transcoder.owed) (room : Nat)
    (last : transcoder.pending = [] → transcoder.ended = true) :
    Answers before room (transcoder.serve room).1 (transcoder.serve room).2 where
  unfailing := unfailing
  front := by
    rw [same]
    simp only [serve, owed]
    rw [← List.append_assoc, List.take_append_drop]
    rfl
  fits := List.length_take_le room _
  ends := by
    intro nothing
    rcases List.take_eq_nil_iff.mp nothing with none | nothing
    · exact .inl none
    · right
      simp only [serve, owed, nothing, last nothing, List.drop_nil]
      rfl

theorem exists_read (unfailing : transcoder.Unfailing) (room : Nat) :
    ∃ answer next, transcoder.read room = (.ok answer, next)
      ∧ transcoder.Answers room answer next := by
  unfold read
  by_cases nothing : transcoder.pending = []
  · rw [if_pos (List.isEmpty_iff.mpr nothing)]
    split
    · rename_i idle
      refine ⟨[], transcoder, rfl, unfailing, rfl, Nat.zero_le _, ?_⟩
      intro _
      rcases Bool.or_eq_true _ _ |>.mp idle with ended | none
      · right
        simp only [owed, nothing, ended]
        rfl
      · exact .inl (by simpa using none)
    · rename_i busy
      have reading : transcoder.ended = false := by
        cases ended : transcoder.ended with
        | false => rfl
        | true => simp [ended] at busy
      obtain ⟨filled, same, unfailing', owes, last⟩ :=
        exists_fill (unfailing reading) transcoder.decoder
      have kept : transcoder.owed = filled.owed := by
        rw [owes]
        simp only [owed, nothing, reading]
        rfl
      simp only [same]
      exact ⟨_, _, rfl, answers_serve unfailing' kept room last⟩
  · rw [if_neg (mt List.isEmpty_iff.mp nothing)]
    exact ⟨_, _, rfl, answers_serve unfailing rfl room fun empty => absurd empty nothing⟩

/-- **What requests of any sizes are answered.** -/
structure Serves (document : List UInt8) (rooms : List Nat) (answers : List (List UInt8)) :
    Prop where
  fits : List.Forall₂ (fun room answer => answer.length ≤ room) rooms answers
  /-- The answers, put together, are the beginning of the document. -/
  begins : answers.flatten <+: document
  /-- An answer without bytes where some were asked for comes after the whole document only. -/
  ends : ∀ position room, rooms[position]? = some room → room ≠ 0 →
    answers[position]? = some [] → (answers.take position).flatten = document
  /-- Nothing is held back: as many requests as there are bytes are enough. -/
  whole : document.length ≤ (rooms.filter (· ≠ 0)).length → answers.flatten = document

omit [MultibyteCodecs] in
theorem Serves.cons {document answer : List UInt8} {rooms : List Nat} {answers : List (List UInt8)}
    {room : Nat} (fits : answer.length ≤ room) (ends : answer = [] → room = 0 ∨ document = [])
    (serves : Serves document rooms answers) :
    Serves (answer ++ document) (room :: rooms) (answer :: answers) where
  fits := .cons fits serves.fits
  begins := (List.prefix_append_right_inj answer).mpr serves.begins
  ends := by
    intro position room' asked some_room nothing
    cases position with
    | zero =>
      cases asked
      cases nothing
      rcases ends rfl with none | last
      · exact absurd none some_room
      · rw [last]
        rfl
    | succ position =>
      have rest := serves.ends position room' asked some_room nothing
      rw [List.take_succ_cons, List.flatten_cons, rest]
  whole := by
    intro enough
    rw [List.flatten_cons]
    by_cases last : document = []
    · have rest := List.prefix_nil.mp (last ▸ serves.begins)
      rw [rest, last]
    · have rest : answers.flatten = document := by
        apply serves.whole
        rw [List.length_append] at enough
        by_cases none : room = 0
        · rw [List.filter_cons_of_neg (by simpa using none)] at enough
          omega
        · -- A request for something that is owed has been answered with a byte at least.
          have some_byte : 0 < answer.length := by
            apply List.length_pos_of_ne_nil
            intro nothing
            exact (ends nothing).elim none last
          rw [List.filter_cons_of_pos (by simpa using none), List.length_cons] at enough
          omega
      rw [rest]

theorem exists_readAll (unfailing : transcoder.Unfailing) (rooms : List Nat) :
    ∃ answers, (transcoder.readAll rooms).1 = answers.map .ok
      ∧ Serves transcoder.owed rooms answers := by
  induction rooms generalizing transcoder with
  | nil =>
    refine ⟨[], rfl, .nil, List.nil_prefix, nofun, ?_⟩
    intro enough
    exact (List.eq_nil_of_length_eq_zero (Nat.le_zero.mp enough)).symm
  | cons room rooms ih =>
    obtain ⟨answer, next, read, answered⟩ := exists_read unfailing room
    obtain ⟨answers, more, serves⟩ := ih answered.unfailing
    refine ⟨answer :: answers, ?_, ?_⟩
    · simp only [readAll, read, more, List.map_cons]
    · rw [answered.front]
      exact serves.cons answered.fits answered.ends

/-- **A transcoder serves the UTF-8 of its document as decoded at once**, whatever it is asked
    for and in whatever reads the bytes come. -/
theorem serves_new {source : Source} (served : source.failure? = none) (charset : Charset)
    (rooms : List Nat) :
    ∃ answers, ((new charset source).readAll rooms).1 = answers.map .ok
      ∧ Serves (Charset.utf8.encode (charset.decode source.bytes)) rooms answers := by
  rw [← owed_new]
  exact exists_readAll (unfailing_new served charset) rooms

end Transcoder

/-! ### Windows -/

/-- The characters of a text that begin in its first bytes. -/
def Text.beginningIn : Nat → List Char → List Char
  | 0, _ => []
  | _ + 1, [] => []
  | bytes + 1, c :: rest => c :: beginningIn (bytes + 1 - c.utf8Size) rest

theorem Text.beginningIn_cons {bytes : Nat} (some_bytes : 0 < bytes) (c : Char) (rest : List Char) :
    beginningIn bytes (c :: rest) = c :: beginningIn (bytes - c.utf8Size) rest := by
  cases bytes with
  | zero => cases some_bytes
  | succ bytes => rfl

theorem Text.beginningIn_nil (bytes : Nat) : beginningIn bytes [] = [] := by
  cases bytes with
  | zero => rfl
  | succ bytes => rfl

/-- **The first windows of a text** hold the characters that begin in as many bytes as there is
    room for in them. -/
theorem Recovery.take_windows {room : Nat} (some_room : 0 < room) (chars : List Char)
    (more : Nat) :
    ((windows room chars).take (more + 1)).flatten =
      Text.beginningIn (room + more * blockSize) chars := by
  induction chars generalizing room more with
  | nil =>
    rw [Text.beginningIn_nil]
    rfl
  | cons c rest ih =>
    have small : c.utf8Size < blockSize :=
      Nat.lt_of_le_of_lt (Char.utf8Size_le_four c) (by decide)
    rw [Text.beginningIn_cons (by omega), windows]
    by_cases inside : c.utf8Size < room
    · have others := ih (Nat.sub_pos_of_lt inside) more
      have left : room + more * blockSize - c.utf8Size =
          room - c.utf8Size + more * blockSize := by
        omega
      rw [if_pos inside, left, ← others]
      cases windows (room - c.utf8Size) rest with
      | nil => simp
      | cons window windows => simp
    · rw [if_neg inside]
      cases more with
      | zero =>
        have full : room + 0 * blockSize - c.utf8Size = 0 := by omega
        rw [full, Text.beginningIn]
        simp
      | succ more =>
        have left : room + (more + 1) * blockSize - c.utf8Size =
            room + blockSize - c.utf8Size + more * blockSize := by
          rw [Nat.succ_mul]
          omega
        rw [left, ← ih (by omega) more]
        rfl

variable [MultibyteCodecs]

/-- Requests of the size of a block take what is pending in its order. -/
theorem Transcoder.readAll_blocks (transcoder : Transcoder) (more : Nat)
    (enough : more * blockSize < transcoder.pending.length) :
    ∃ answers : List (List UInt8),
      (transcoder.readAll (List.replicate (more + 1) blockSize)).1 = answers.map .ok
      ∧ answers.flatten = transcoder.pending.take ((more + 1) * blockSize) := by
  induction more generalizing transcoder with
  | zero =>
    have held : transcoder.pending ≠ [] := List.ne_nil_of_length_pos (by omega)
    refine ⟨[transcoder.pending.take blockSize], ?_, ?_⟩
    · simp [readAll, read, serve, held]
    · simp
  | succ more ih =>
    have held : transcoder.pending ≠ [] := List.ne_nil_of_length_pos (by omega)
    have left : more * blockSize < (transcoder.serve blockSize).2.pending.length := by
      simp only [serve, List.length_drop]
      rw [Nat.succ_mul] at enough
      omega
    obtain ⟨answers, others, taken⟩ := ih (transcoder.serve blockSize).2 left
    refine ⟨(transcoder.serve blockSize).1 :: answers, ?_, ?_⟩
    · rw [List.replicate_succ]
      simp only [readAll, List.map_cons, ← others]
      simp [read, held]
    · rw [List.flatten_cons, taken]
      simp only [serve]
      rw [← List.take_add, Nat.add_comm, ← Nat.succ_mul]

/-- **The windows of a recovery are the answers to requests of the size of a block**: where some
    text is at hand, so many windows are the characters that begin in so many answers. -/
theorem Transcoder.windows_of_reads (transcoder : Transcoder) (chars : List Char)
    (held : transcoder.pending = Charset.utf8.encode chars) (more : Nat)
    (enough : more * blockSize < transcoder.pending.length) :
    ∃ answers : List (List UInt8),
      (transcoder.readAll (List.replicate (more + 1) blockSize)).1 = answers.map .ok
      ∧ answers.flatten = (Charset.utf8.encode chars).take ((more + 1) * blockSize)
      ∧ ((Recovery.windows blockSize chars).take (more + 1)).flatten =
        Text.beginningIn ((more + 1) * blockSize) chars := by
  obtain ⟨answers, read, taken⟩ := transcoder.readAll_blocks more enough
  refine ⟨answers, read, ?_, ?_⟩
  · rw [← held]
    exact taken
  · rw [Recovery.take_windows (by decide), Nat.succ_mul, Nat.add_comm]

end FlatFile
