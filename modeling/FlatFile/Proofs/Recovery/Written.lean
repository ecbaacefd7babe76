/-
  FlatFile/Proofs/Recovery/Written.lean
  =====================================
  **The lines that a run writes.**

  What an event does is an advance that knows nothing of the sink, followed by a write if
  a line is complete (`handle_eq`).  So the lines of a document are known before anything
  is written (`linesOf`), and a run that succeeds has written just these, one after the
  other, each with its terminator (`run_adds`).
-/
import FlatFile.Proofs.Recovery.Journal

namespace FlatFile

open Markup

/-! ### The line at hand -/

/-- The line element and the column element at hand. -/
structure Progress where
  record : Option Record := none
  column : Option (Option UInt64 × Growing Char) := none

def Progress.addText (progress : Progress) (raw : List Char) : Progress :=
  match progress.column with
  | some (position, value) => { progress with column := some (position, value.add raw) }
  | none => { progress with record := progress.record.map fun record => record.addText raw }

namespace RecoveryState

def progress (state : RecoveryState) : Progress := ⟨state.record, state.column⟩

def moved (state : RecoveryState) (progress : Progress) : RecoveryState :=
  { state with record := progress.record, column := progress.column }

theorem addText_eq (state : RecoveryState) (raw : List Char) :
    state.addText raw = state.moved (state.progress.addText raw) := by
  rcases state with ⟨decoder, reader, record, column, written, sink⟩
  cases column with
  | none => rfl
  | some column => rfl

end RecoveryState

namespace Recovery

variable {recovery : Recovery} {state after : RecoveryState}

/-- How an event moves the line at hand, and the line that it completes. -/
def advance (recovery : Recovery) (progress : Progress) :
    Event → Except ReferenceFault (Option (List Char) × Progress)
  | .comment content =>
    match progress.record with
    | none => .ok (some (headerLine content), progress)
    | some _ => .ok (none, progress)
  | .start tag =>
    match progress.record with
    | none =>
      .ok (none,
        if recovery.isLineName tag.name then { progress with record := some (recovery.opened tag) }
        else progress)
    | some _ => .ok (none, { progress with column := some (recovery.positionOfTag? tag, .empty) })
  | .empty tag =>
    match progress.record with
    | none =>
      if recovery.isLineName tag.name then
        (recovery.line (recovery.opened tag)).map fun line => (some line, progress)
      else .ok (none, progress)
    | some record =>
      .ok (none,
        { progress with record := some (record.addColumn (recovery.positionOfTag? tag) []) })
  | .text raw => .ok (none, progress.addText raw)
  | .reference name => .ok (none, progress.addText ('&' :: name ++ [';']))
  | .cdata content => .ok (none, progress.addText (Markup.escape content))
  | .finish name =>
    match progress.column, progress.record with
    | some (position, value), some record =>
      .ok (none, ⟨some (record.addColumn position value.toList), none⟩)
    | some _, none => .ok (none, { progress with column := none })
    | none, some record =>
      if recovery.isLineName name then
        (recovery.line record).map fun line => (some line, { progress with record := none })
      else .ok (none, progress)
    | none, none => .ok (none, progress)
  | .other => .ok (none, progress)

variable [MultibyteCodecs]

/-- What an advance makes a run do. -/
def carryOut (recovery : Recovery) (state : RecoveryState) :
    Except ReferenceFault (Option (List Char) × Progress) → RecoveryStep
  | .error fault => (some (.document (.reference fault)), { state with record := none })
  | .ok (none, progress) => (none, state.moved progress)
  | .ok (some line, progress) => recovery.write (state.moved progress) line

/-- **An event advances the line at hand**, and writes it if it is complete. -/
theorem handle_eq (recovery : Recovery) (state : RecoveryState) (event : Event) :
    recovery.handle state event =
      recovery.carryOut state (recovery.advance state.progress event) := by
  rcases state with ⟨decoder, reader, record, column, written, sink⟩
  cases event with
  | comment content =>
    cases record with
    | none => rfl
    | some record => rfl
  | start tag =>
    cases record with
    | none =>
      rw [handle, advance]
      dsimp only [RecoveryState.progress]
      split <;> rfl
    | some record => rfl
  | empty tag =>
    cases record with
    | none =>
      rw [handle, advance]
      dsimp only [RecoveryState.progress]
      split
      · rw [writeRecord]
        cases recovery.line (recovery.opened tag) with
        | ok line => rfl
        | error fault => rfl
      · rfl
    | some record => rfl
  | text raw => exact congrArg (none, ·) (RecoveryState.addText_eq _ _)
  | reference name => exact congrArg (none, ·) (RecoveryState.addText_eq _ _)
  | cdata content => exact congrArg (none, ·) (RecoveryState.addText_eq _ _)
  | finish name =>
    cases column with
    | some column =>
      cases record with
      | none => rfl
      | some record => rfl
    | none =>
      cases record with
      | none => rfl
      | some record =>
        rw [handle, advance]
        dsimp only [RecoveryState.progress]
        split
        · rw [writeRecord]
          cases recovery.line record with
          | ok line => rfl
          | error fault => rfl
        · rfl
  | other => rfl

/-! ### The lines of a document -/

/-- The lines that some events complete, up to the first fault. -/
def linesOf (recovery : Recovery) (progress : Progress) : List Event → List (List Char)
  | [] => []
  | event :: events =>
    match recovery.advance progress event with
    | .error _ => []
    | .ok (line, next) => line.toList ++ recovery.linesOf next events

theorem carryOut_adds {line : Option (List Char)} {progress : Progress}
    (done : recovery.carryOut state (.ok (line, progress)) = (none, after)) :
    recovery.Adds state line.toList after ∧ after.progress = progress := by
  cases line with
  | none =>
    cases done
    exact ⟨⟨rfl, (List.append_nil _).symm⟩, rfl⟩
  | some line =>
    have added := adds_of_write done
    rw [carryOut, write] at done
    split at done
    · cases done
      exact ⟨⟨added.written, added.accepted⟩, rfl⟩
    · cases done

/-- **Events that are handled without a failure write the lines that they complete.** -/
theorem handleAll_adds {events : List Event}
    (handled : recovery.handleAll state events = (none, after)) :
    recovery.Adds state (recovery.linesOf state.progress events) after := by
  induction events generalizing state with
  | nil =>
    cases handled
    exact .nil _ _
  | cons event events ih =>
    obtain ⟨next, first, rest⟩ := handleAll_cons_eq handled
    rw [handle_eq] at first
    rw [linesOf]
    cases advanced : recovery.advance state.progress event with
    | error fault =>
      rw [advanced] at first
      cases first
    | ok step =>
      rcases step with ⟨line, progress⟩
      rw [advanced] at first
      obtain ⟨added, same⟩ := carryOut_adds first
      have more := ih rest
      rw [same] at more
      exact added.trans more

/-- **The lines of a document**: those of its comments outside line elements and of its line
    elements, in their order. -/
def documentLines (recovery : Recovery) (document : Source) : List (List Char) :=
  match recovery.style.outputCharset? with
  | .error _ => []
  | .ok charset => recovery.linesOf {} (documentReport charset document).1

/-- **A run that succeeds has written the lines of its document.** -/
theorem run_adds {document : Source} {sink : Sink} {count : Nat}
    (succeeded : (recovery.run document sink).result = .ok count) :
    count = (recovery.documentLines document).length
      ∧ (recovery.run document sink).sink.accepted =
        sink.accepted ++ (recovery.documentLines document).flatMap recovery.lineBytes := by
  rw [documentLines]
  cases output : recovery.style.outputCharset? with
  | error failure =>
    rw [run, output] at succeeded
    cases succeeded
  | ok charset =>
    obtain ⟨made, same⟩ := run_eq output document sink
    rw [same] at succeeded ⊢
    rcases flush : flushed (recovery.settle (start charset sink) (documentReport charset document))
      with ⟨_ | failure, after⟩
    · rw [flush] at succeeded
      cases succeeded
      have added := handleAll_adds (handleAll_of_settle (flushed_eq_none flush))
      exact ⟨added.written.trans (Nat.zero_add _), added.accepted⟩
    · rw [flush] at succeeded
      cases succeeded

end Recovery

end FlatFile
