/-
  FlatFile/Proofs/Recovery/Halting.lean
  =====================================
  **How a run ends, and what it leaves in its sink.**

  Events are handled up to the end, up to a reference that cannot be resolved, or up to a
  write that the sink refuses (`Halts`); only the last one leaves less than whole lines.
  A run ends in the same ways, or where its document cannot be read any further
  (`run_halted`).
-/
import FlatFile.Proofs.Recovery.Lines
import FlatFile.Proofs.Recovery.Written

namespace FlatFile

open Markup

/-! ### Writes -/

/-- A write leaves a part of its bytes in the sink, whether it fails or not. -/
theorem Sink.exists_accepted_of_writeAll {sink after : Sink} {bytes : List UInt8}
    {failure? : Option IoFailure} (written : sink.writeAll bytes = (failure?, after)) :
    ∃ taken, taken <+: bytes ∧ after.accepted = sink.accepted ++ taken := by
  cases failure? with
  | none => exact ⟨bytes, List.prefix_rfl, accepted_of_writeAll written⟩
  | some failure =>
    unfold Sink.writeAll at written
    split at written
    · cases written
    · split at written
      · cases written
        exact ⟨[], List.nil_prefix, (List.append_nil _).symm⟩
      · split at written
        · cases written
          exact ⟨[], List.nil_prefix, (List.append_nil _).symm⟩
        · split at written
          · cases written
          · rename_i room _
            split at written
            · cases written
            · cases written
              exact ⟨bytes.take room, List.take_prefix _ _, Growing.toList_add _ _⟩

variable [MultibyteCodecs]

namespace Recovery

variable {recovery : Recovery} {state after : RecoveryState} {failure : Failure}

theorem exists_accepted_of_write {line : List Char}
    (failed : recovery.write state line = (some failure, after)) :
    ∃ reason taken, failure = .io reason ∧ taken <+: recovery.lineBytes line
      ∧ after.sink.accepted = state.sink.accepted ++ taken := by
  rw [write] at failed
  rcases written : state.sink.writeAll (recovery.lineBytes line) with ⟨_ | reason, sink⟩
  · rw [written] at failed
    cases failed
  · rw [written] at failed
    cases failed
    obtain ⟨taken, part, accepted⟩ := Sink.exists_accepted_of_writeAll written
    exact ⟨reason, taken, rfl, part, accepted⟩

/-! ### Events -/

/-- The reference that cannot be resolved at which some events end, if there is one. -/
def faultOf? (recovery : Recovery) (progress : Progress) : List Event → Option ReferenceFault
  | [] => none
  | event :: events =>
    match recovery.advance progress event with
    | .error fault => some fault
    | .ok (_, next) => recovery.faultOf? next events

/-- **How the handling of some events ends**, and what has been written then. -/
inductive Halts (recovery : Recovery) (state : RecoveryState) (events : List Event) :
    RecoveryStep → Prop where
  | whole {after : RecoveryState} (sound : recovery.faultOf? state.progress events = none)
      (added : recovery.Adds state (recovery.linesOf state.progress events) after) :
      Halts recovery state events (none, after)
  | fault {fault : ReferenceFault} {after : RecoveryState}
      (met : recovery.faultOf? state.progress events = some fault)
      (added : recovery.Adds state (recovery.linesOf state.progress events) after) :
      Halts recovery state events (some (.document (.reference fault)), after)
  | refused {reason : IoFailure} {after : RecoveryState} {taken : List UInt8}
      (part : taken <+: (recovery.linesOf state.progress events).flatMap recovery.lineBytes)
      (accepted : after.sink.accepted = state.sink.accepted ++ taken) :
      Halts recovery state events (some (.io reason), after)

/-- What comes after an event that is done ends as it does from there. -/
theorem Halts.cons {event : Event} {events : List Event} {line : Option (List Char)}
    {progress : Progress} {next : RecoveryState} {step : RecoveryStep}
    (advanced : recovery.advance state.progress event = .ok (line, progress))
    (added : recovery.Adds state line.toList next) (same : next.progress = progress)
    (rest : recovery.Halts next events step) : recovery.Halts state (event :: events) step := by
  subst same
  have lines : recovery.linesOf state.progress (event :: events) =
      line.toList ++ recovery.linesOf next.progress events := by
    rw [linesOf, advanced]
  have fault : recovery.faultOf? state.progress (event :: events) =
      recovery.faultOf? next.progress events := by
    rw [faultOf?, advanced]
  cases rest with
  | whole sound more => exact .whole (fault.trans sound) (lines ▸ added.trans more)
  | fault met more => exact .fault (fault.trans met) (lines ▸ added.trans more)
  | @refused reason after taken part accepted =>
    have written : after.sink.accepted =
        state.sink.accepted ++ (line.toList.flatMap recovery.lineBytes ++ taken) := by
      rw [accepted, added.accepted, List.append_assoc]
    refine .refused ?_ written
    rw [lines, List.flatMap_append]
    exact (List.prefix_append_right_inj _).mpr part

/-- **Events are handled in order**, and every line is written before the next event. -/
theorem handleAll_halts (recovery : Recovery) (state : RecoveryState) (events : List Event) :
    recovery.Halts state events (recovery.handleAll state events) := by
  induction events generalizing state with
  | nil => exact .whole rfl (.nil recovery state)
  | cons event events ih =>
    rw [handleAll, handle_eq]
    cases advanced : recovery.advance state.progress event with
    | error fault =>
      refine .fault ?_ ⟨?_, ?_⟩
      · rw [faultOf?, advanced]
      · rw [linesOf, advanced]
        rfl
      · rw [linesOf, advanced]
        exact (List.append_nil _).symm
    | ok step =>
      rcases step with ⟨line, progress⟩
      rcases done : recovery.carryOut state (.ok (line, progress)) with ⟨_ | failure, next⟩
      · obtain ⟨added, same⟩ := carryOut_adds done
        exact (ih next).cons advanced added same
      · -- Only a line that is written can fail here.
        cases line with
        | none => cases done
        | some line =>
          obtain ⟨reason, taken, rfl, part, accepted⟩ := exists_accepted_of_write done
          refine .refused ?_ accepted
          rw [linesOf, advanced]
          exact part.trans (List.prefix_append _ _)

/-- What has been written stays written. -/
theorem Halts.accepted_begins {events : List Event} {step : RecoveryStep}
    (halts : recovery.Halts state events step) :
    state.sink.accepted <+: step.2.sink.accepted := by
  cases halts with
  | whole sound added => exact added.accepted ▸ List.prefix_append _ _
  | fault met added => exact added.accepted ▸ List.prefix_append _ _
  | refused part accepted => exact accepted ▸ List.prefix_append _ _

theorem write_of_writeAll {line : List Char} {sink : Sink}
    (taken : state.sink.writeAll (recovery.lineBytes line) = (none, sink)) :
    recovery.write state line = (none, { state with sink, written := state.written + 1 }) := by
  rw [write, taken]

/-- A sink that takes everything refuses no event. -/
theorem handleAll_open {events : List Event} (free : state.sink.Open) :
    (∀ reason, (recovery.handleAll state events).1 ≠ some (.io reason))
      ∧ (recovery.handleAll state events).2.sink.Open := by
  induction events generalizing state with
  | nil =>
    refine ⟨?_, free⟩
    intro reason refused
    cases refused
  | cons event events ih =>
    rw [handleAll, handle_eq]
    cases advanced : recovery.advance state.progress event with
    | error fault =>
      refine ⟨?_, free⟩
      intro reason refused
      cases refused
    | ok step =>
      rcases step with ⟨_ | line, progress⟩
      · exact @ih (state.moved progress) free
      · obtain ⟨sink, taken, still⟩ := free.writeAll (recovery.lineBytes line)
        have done : recovery.carryOut state (.ok (some line, progress)) =
            (none, { state.moved progress with sink, written := state.written + 1 }) :=
          write_of_writeAll taken
        rw [done]
        exact ih still

end Recovery

/-! ### Reports -/

namespace Markup

/-- Whatever ends a report is a fault of the document or of its source. -/
def Report.OfDocument {α : Type} (report : Report α) : Prop :=
  ∀ failure, report.2 = .error failure → ∃ fault, failure = .document fault

omit [MultibyteCodecs] in
theorem Report.OfDocument.andThen {α β : Type} {report : Report α} {next : α → Report β}
    (first : report.OfDocument) (second : ∀ state, (next state).OfDocument) :
    (report.andThen next).OfDocument := by
  intro failure ended
  rcases report with ⟨events, failure' | state⟩
  · have same : failure' = failure := Except.error.inj ended
    exact first failure (congrArg Except.error same)
  · exact second state failure ended

namespace Reader

omit [MultibyteCodecs] in
theorem ofDocument_reportOf (reader : Reader) (chars : List Char) :
    (reader.reportOf chars).OfDocument := by
  induction chars generalizing reader with
  | nil => exact nofun
  | cons c rest ih =>
    rw [reportOf]
    refine Report.OfDocument.andThen ?_ ih
    intro failure ended
    rw [reportOfChar] at ended
    cases step : reader.step c with
    | error fault =>
      rw [step] at ended
      cases ended
      exact ⟨_, rfl⟩
    | ok taken =>
      rw [step] at ended
      cases ended

omit [MultibyteCodecs] in
theorem ofDocument_reportOfWindows (reader : Reader) (windows : List (List Char)) :
    (reader.reportOfWindows windows).OfDocument := by
  induction windows generalizing reader with
  | nil => exact nofun
  | cons window rest ih =>
    rw [reportOfWindows]
    exact (ofDocument_reportOf reader window).andThen fun next => ih next.pause

theorem ofDocument_reportOfEnd (reader : Reader) (decoder : Decoder) :
    (reader.reportOfEnd decoder).OfDocument := by
  rw [reportOfEnd]
  refine (ofDocument_reportOf reader decoder.finish).andThen ?_
  intro last failure ended
  cases finished : last.finish with
  | error fault =>
    rw [finished] at ended
    cases ended
    exact ⟨_, rfl⟩
  | ok event =>
    rw [finished] at ended
    cases ended

end Reader

theorem ofDocument_reportOf (decoder : Decoder) (reader : Reader) (document : Source) :
    (reportOf decoder reader document).OfDocument := by
  induction document generalizing decoder reader with
  | nil => exact reader.ofDocument_reportOfEnd decoder
  | cons reading rest ih =>
    cases reading with
    | failure failure =>
      rw [reportOf]
      split
      · exact ih decoder reader
      · rintro _ ⟨⟩
        exact ⟨_, rfl⟩
    | data block =>
      cases block with
      | nil => exact reader.ofDocument_reportOfEnd decoder
      | cons b bytes =>
        rw [reportOf]
        exact (reader.ofDocument_reportOfWindows _).andThen fun next => ih _ next

end Markup

/-! ### Runs -/

namespace Recovery

/-- **How a run ends**, given the events of its document, and what is in the sink then. -/
inductive Halted (recovery : Recovery) (report : Report Unit) (sink : Sink) : Outcome → Prop where
  | whole {outcome : Outcome} (ended : report.2 = .ok ())
      (sound : recovery.faultOf? {} report.1 = none)
      (result : outcome.result = .ok (recovery.linesOf {} report.1).length)
      (accepted : outcome.sink.accepted =
        sink.accepted ++ (recovery.linesOf {} report.1).flatMap recovery.lineBytes)
      (flushes : outcome.sink.flushFailure = none) : Halted recovery report sink outcome
  | stopped {outcome : Outcome} {fault : DocumentFault}
      (ended : report.2 = .error (.document fault))
      (sound : recovery.faultOf? {} report.1 = none)
      (result : outcome.result = .error (.document fault))
      (accepted : outcome.sink.accepted =
        sink.accepted ++ (recovery.linesOf {} report.1).flatMap recovery.lineBytes) :
      Halted recovery report sink outcome
  | fault {outcome : Outcome} {fault : ReferenceFault}
      (met : recovery.faultOf? {} report.1 = some fault)
      (result : outcome.result = .error (.document (.reference fault)))
      (accepted : outcome.sink.accepted =
        sink.accepted ++ (recovery.linesOf {} report.1).flatMap recovery.lineBytes) :
      Halted recovery report sink outcome
  | refused {outcome : Outcome} {reason : IoFailure} {taken : List UInt8}
      (result : outcome.result = .error (.io reason))
      (part : taken <+: (recovery.linesOf {} report.1).flatMap recovery.lineBytes)
      (accepted : outcome.sink.accepted = sink.accepted ++ taken) :
      Halted recovery report sink outcome

variable {recovery : Recovery} {charset : Charset}

/-- **Every run ends in one of these ways.** -/
theorem run_halted (output : recovery.style.outputCharset? = .ok charset) (document : Source)
    (sink : Sink) :
    recovery.Halted (documentReport charset document) sink (recovery.run document sink) := by
  obtain ⟨made, same⟩ := run_eq output document sink
  have ofDocument := ofDocument_reportOf (.new charset) .new document.inBlocks
  change (documentReport charset document).OfDocument at ofDocument
  rw [same]
  generalize documentReport charset document = report at ofDocument
  have halts := recovery.handleAll_halts (start charset sink) report.1
  unfold settle
  generalize handled : recovery.handleAll (start charset sink) report.1 = step at halts
  cases halts with
  | fault met added => exact .fault met rfl added.accepted
  | refused part accepted => exact .refused rfl part accepted
  | @whole after sound added =>
    cases ended : report.2 with
    | error failure =>
      obtain ⟨fault, rfl⟩ := ofDocument failure ended
      exact .stopped ended sound rfl added.accepted
    | ok _ =>
      dsimp only
      rw [flushed]
      cases flush : after.sink.flushFailure with
      | none =>
        refine .whole ended sound ?_ added.accepted flush
        exact congrArg Except.ok (added.written.trans (Nat.zero_add _))
      | some reason => exact .refused rfl List.prefix_rfl added.accepted

/-- **A run fails by its document or by its sink**, if the charset of the document is known. -/
theorem failure_of_run (output : recovery.style.outputCharset? = .ok charset) {document : Source}
    {sink : Sink} {failure : Failure}
    (failed : (recovery.run document sink).result = .error failure) :
    (∃ fault, failure = .document fault) ∨ ∃ reason, failure = .io reason := by
  cases run_halted output document sink with
  | whole ended sound result => cases result.symm.trans failed
  | stopped ended sound result =>
    cases result.symm.trans failed
    exact .inl ⟨_, rfl⟩
  | fault met result =>
    cases result.symm.trans failed
    exact .inl ⟨_, rfl⟩
  | refused result =>
    cases result.symm.trans failed
    exact .inr ⟨_, rfl⟩

/-- After a run that was not refused, all lines of the document are in the sink. -/
theorem Halted.accepted_of_not_refused {report : Report Unit} {sink : Sink} {outcome : Outcome}
    (halted : recovery.Halted report sink outcome)
    (taken : ∀ reason, outcome.result ≠ .error (.io reason)) :
    outcome.sink.accepted =
      sink.accepted ++ (recovery.linesOf {} report.1).flatMap recovery.lineBytes := by
  cases halted with
  | whole ended sound result accepted => exact accepted
  | stopped ended sound result accepted => exact accepted
  | fault met result accepted => exact accepted
  | refused result => exact absurd result (taken _)

theorem not_refused_of_open (output : recovery.style.outputCharset? = .ok charset)
    (document : Source) {sink : Sink} (free : sink.Open) (reason : IoFailure) :
    (recovery.run document sink).result ≠ .error (.io reason) := by
  obtain ⟨made, same⟩ := run_eq output document sink
  have ofDocument := ofDocument_reportOf (.new charset) .new document.inBlocks
  change (documentReport charset document).OfDocument at ofDocument
  have kept := @handleAll_open _ recovery (start charset sink) (documentReport charset document).1 free
  rw [same, settle]
  rcases handled : recovery.handleAll (start charset sink) (documentReport charset document).1 with
    ⟨_ | failure, after⟩
  · rw [handled] at kept
    cases ended : (documentReport charset document).2 with
    | error failure =>
      obtain ⟨fault, rfl⟩ := ofDocument failure ended
      intro refused
      cases refused
    | ok _ =>
      dsimp only
      rw [flushed, kept.2.flushes]
      intro refused
      cases refused
  · rw [handled] at kept
    intro refused
    cases refused
    exact kept.1 reason rfl

/-- **What a sink that takes everything receives**: all lines of the document. -/
theorem accepted_of_open (output : recovery.style.outputCharset? = .ok charset) (document : Source)
    {sink : Sink} (free : sink.Open) :
    (recovery.run document sink).sink.accepted = sink.accepted
      ++ (recovery.linesOf {} (documentReport charset document).1).flatMap recovery.lineBytes := by
  exact (run_halted output document sink).accepted_of_not_refused
    (not_refused_of_open output document free)

end Recovery

end FlatFile
