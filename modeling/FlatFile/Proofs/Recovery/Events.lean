/-
  FlatFile/Proofs/Recovery/Events.lean
  ====================================
  **What the events of a document do to a recovery.**

  What the reader reports of a text comes in pieces, and none of this is left in the
  outcome: `handlePassages` handles the passages of a document one after the other, and
  `handleAll` comes to the same for every list of events that has them (`handleAll_eq`).
  Both stop at the first failure.  What has been read so far, the state of the decoder and
  that of the reader, has no part in it (`handle_beside`).
-/
import FlatFile.Proofs.Markup.Passages
import FlatFile.Recovery.Run

namespace FlatFile

open Markup

/-- A sink that takes all bytes of a write has them after those it had taken. -/
theorem Sink.accepted_of_writeAll {sink after : Sink} {bytes : List UInt8}
    (taken : sink.writeAll bytes = (none, after)) :
    after.accepted = sink.accepted ++ bytes := by
  have added : (sink.take bytes).accepted = sink.accepted ++ bytes := Growing.toList_add _ _
  unfold Sink.writeAll at taken
  split at taken
  · rename_i nothing
    cases taken
    rw [List.isEmpty_iff.mp nothing, List.append_nil]
  · split at taken
    · cases taken
    · split at taken
      · cases taken
      · split at taken
        · cases taken
          exact added
        · split at taken
          · cases taken
            exact added
          · cases taken

namespace RecoveryState

/-! ### Text -/

@[simp] theorem addText_nil (state : RecoveryState) : state.addText [] = state := by
  rcases state with ⟨decoder, reader, record, column, written, sink⟩
  cases column with
  | none => cases record <;> rfl
  | some column => rfl

theorem addText_append (state : RecoveryState) (raw more : List Char) :
    state.addText (raw ++ more) = (state.addText raw).addText more := by
  have grown (sequence : Growing Char) :
      sequence.add (raw ++ more) = (sequence.add raw).add more := by
    simp [Growing.add, List.reverseAux_eq]
  rcases state with ⟨decoder, reader, record, column, written, sink⟩
  cases column with
  | none =>
    cases record with
    | none => rfl
    | some record => simp [addText, Record.addText, grown]
  | some column => simp [addText, grown]

end RecoveryState

namespace Recovery

variable {recovery : Recovery} {state after : RecoveryState}

/-! ### Events -/

variable [MultibyteCodecs]

/-- What some events do, up to the first failure. -/
def handleAll (recovery : Recovery) (state : RecoveryState) : List Event → RecoveryStep
  | [] => (none, state)
  | event :: events =>
    match recovery.handle state event with
    | (none, state) => recovery.handleAll state events
    | failed => failed

theorem handleAll_cons {next : RecoveryState} {event : Event} {events : List Event}
    (first : recovery.handle state event = (none, next)) :
    recovery.handleAll state (event :: events) = recovery.handleAll next events := by
  rw [handleAll, first]

theorem handleAll_cons_eq {event : Event} {events : List Event}
    (h : recovery.handleAll state (event :: events) = (none, after)) :
    ∃ next, recovery.handle state event = (none, next)
      ∧ recovery.handleAll next events = (none, after) := by
  rw [handleAll] at h
  split at h
  · rename_i next first
    exact ⟨next, first, h⟩
  · rename_i failed
    exact absurd h (failed after)

theorem handleAll_append (recovery : Recovery) (state : RecoveryState) (events more : List Event) :
    recovery.handleAll state (events ++ more) =
      match recovery.handleAll state events with
      | (some failure, after) => (some failure, after)
      | (none, after) => recovery.handleAll after more := by
  induction events generalizing state with
  | nil => rfl
  | cons event events ih =>
    rw [List.cons_append, handleAll, handleAll]
    rcases recovery.handle state event with ⟨_ | failure, next⟩
    · exact ih next
    · rfl

/-- What stands beside an event, the reader and the decoder, has no part in it. -/
theorem handle_beside (recovery : Recovery) (state : RecoveryState) (event : Event)
    (decoder : Decoder) (reader : Reader) :
    recovery.handle { state with decoder, reader } event =
      ((recovery.handle state event).1,
        { (recovery.handle state event).2 with decoder, reader }) := by
  -- The parts of a state that an event changes are changed by these three.
  have writes (state : RecoveryState) (line : List Char) :
      recovery.write { state with decoder, reader } line =
        ((recovery.write state line).1, { (recovery.write state line).2 with decoder, reader }) := by
    unfold write
    dsimp only
    split <;> rfl
  have records (state : RecoveryState) (record : Record) :
      recovery.writeRecord { state with decoder, reader } record =
        ((recovery.writeRecord state record).1,
          { (recovery.writeRecord state record).2 with decoder, reader }) := by
    unfold writeRecord
    split
    · exact writes _ _
    · rfl
  have texts (raw : List Char) : RecoveryState.addText { state with decoder, reader } raw =
      { state.addText raw with decoder, reader } := by
    unfold RecoveryState.addText
    dsimp only
    split <;> rfl
  cases event with
  | start tag =>
    simp only [handle]
    split
    · split <;> rfl
    · rfl
  | empty tag =>
    simp only [handle]
    split
    · split
      · exact records state _
      · rfl
    · rfl
  | finish name =>
    simp only [handle]
    split
    · rfl
    · rfl
    · split
      · exact records { state with record := none } _
      · rfl
    · rfl
  | text raw => simp only [handle, texts]
  | reference name => simp only [handle, texts]
  | cdata content => simp only [handle, texts]
  | comment content =>
    simp only [handle]
    split
    · exact writes state _
    · rfl
  | other => rfl

theorem handleAll_beside (recovery : Recovery) (state : RecoveryState) (events : List Event)
    (decoder : Decoder) (reader : Reader) :
    recovery.handleAll { state with decoder, reader } events =
      ((recovery.handleAll state events).1,
        { (recovery.handleAll state events).2 with decoder, reader }) := by
  induction events generalizing state with
  | nil => rfl
  | cons event events ih =>
    rw [handleAll, handleAll, handle_beside]
    rcases recovery.handle state event with ⟨_ | failure, next⟩
    · exact ih next
    · rfl

/-! ### Lines written -/

/-- A state has written some lines more than another one. -/
structure Adds (recovery : Recovery) (state : RecoveryState) (lines : List (List Char))
    (after : RecoveryState) : Prop where
  written : after.written = state.written + lines.length
  accepted : after.sink.accepted = state.sink.accepted ++ lines.flatMap recovery.lineBytes

theorem Adds.nil (recovery : Recovery) (state : RecoveryState) : recovery.Adds state [] state :=
  ⟨rfl, (List.append_nil _).symm⟩

theorem Adds.trans {middle : RecoveryState} {lines others : List (List Char)}
    (first : recovery.Adds state lines middle) (second : recovery.Adds middle others after) :
    recovery.Adds state (lines ++ others) after := by
  constructor
  · rw [second.written, first.written, List.length_append, Nat.add_assoc]
  · rw [second.accepted, first.accepted, List.flatMap_append, List.append_assoc]

theorem adds_of_write {line : List Char} (written : recovery.write state line = (none, after)) :
    recovery.Adds state [line] after := by
  rw [write] at written
  split at written
  · rename_i sink taken
    cases written
    exact ⟨rfl, by rw [List.flatMap_singleton]; exact Sink.accepted_of_writeAll taken⟩
  · cases written

/-! ### Passages -/

/-- What some passages do, up to the first failure: the text before a piece of markup is added,
    then the piece is handled. -/
def handlePassages (recovery : Recovery) (state : RecoveryState) : List Passage → RecoveryStep
  | [] => (none, state)
  | passage :: rest =>
    match recovery.handle (state.addText passage.before) passage.event with
    | (none, state) => recovery.handlePassages state rest
    | failed => failed

theorem handlePassages_cons {next : RecoveryState} {before : List Char} {event : Event}
    {rest : List Passage} (first : recovery.handle (state.addText before) event = (none, next)) :
    recovery.handlePassages state (⟨before, event⟩ :: rest) =
      recovery.handlePassages next rest := by
  rw [handlePassages, first]

theorem handlePassages_append {next : RecoveryState} {between more : List Passage}
    (first : recovery.handlePassages state between = (none, next)) :
    recovery.handlePassages state (between ++ more) = recovery.handlePassages next more := by
  induction between generalizing state with
  | nil =>
    cases first
    rfl
  | cons passage between ih =>
    rw [handlePassages] at first
    split at first
    · rename_i middle handled
      rw [List.cons_append, handlePassages_cons handled]
      exact ih first
    · rename_i failed
      exact absurd first (failed next)

theorem handle_raw {event : Event} {raw : List Char} (text : event.raw? = some raw)
    (state : RecoveryState) : recovery.handle state event = (none, state.addText raw) := by
  cases event with
  | text raw' =>
    cases text
    rfl
  | reference name =>
    cases text
    rfl
  | cdata content =>
    cases text
    rfl
  | start tag => cases text
  | empty tag => cases text
  | finish name => cases text
  | comment content => cases text
  | other => cases text

/-- **Events do what their passages do.** -/
theorem handleAll_eq (recovery : Recovery) (state : RecoveryState) (before : List Char)
    (events : List Event) :
    recovery.handleAll (state.addText before) events =
      match recovery.handlePassages state (passages before events).1 with
      | (some failure, after) => (some failure, after)
      | (none, after) => (none, after.addText (passages before events).2) := by
  induction events generalizing state before with
  | nil => rfl
  | cons event events ih =>
    rw [passages]
    -- Raw text is not handled at once: it goes on with the text before the next passage.
    cases text : event.raw? with
    | some raw =>
      rw [handleAll_cons (handle_raw text _), ← RecoveryState.addText_append]
      exact ih _ _
    | none =>
      rw [handleAll]
      dsimp only
      rw [handlePassages]
      rcases recovery.handle (state.addText before) event with ⟨_ | failure, next⟩
      · have rest := ih next []
        rwa [RecoveryState.addText_nil] at rest
      · rfl

end Recovery

end FlatFile
