/-
  FlatFile/Proofs/Recovery/Sound.lean
  ===================================
  **A sound document can be recovered.**

  The values that gather in a record are those of sound tags and the text between them, so
  all of them are ready for a document (`Progress.Ready`), and ready values can be resolved.
  Whatever the names of the elements are and whichever of them are lines, an event of such a
  document advances the line at hand without a fault (`advance_ready`).  The one thing that
  can still fail is the sink (`run_of_sound`).
-/
import FlatFile.Proofs.Markup.Sound
import FlatFile.Proofs.Recovery.Counting
import FlatFile.Proofs.Recovery.Written

namespace FlatFile

open Markup

/-! ### The line at hand -/

namespace Record

/-- Everything in a record is ready for a document. -/
structure Ready (record : Record) : Prop where
  text : Markup.Ready false record.text.toList
  columns : ∀ column ∈ record.columns, Markup.Ready false column.2

theorem ready_empty : Ready {} := by
  constructor
  · exact .nil
  · intro column inside
    cases inside

variable {record : Record} {raw : List Char}

theorem Ready.resolves (ready : record.Ready) : record.Resolves := by
  constructor
  · exact ready.text.resolves
  · intro column inside
    exact (ready.columns column inside).resolves

theorem Ready.addText (ready : record.Ready) (more : Markup.Ready false raw) :
    (record.addText raw).Ready := by
  constructor
  · rw [Record.addText, Growing.toList_add]
    exact ready.text.append more
  · exact ready.columns

theorem Ready.addColumn (ready : record.Ready) (position : Option UInt64)
    (more : Markup.Ready false raw) : (record.addColumn position raw).Ready := by
  constructor
  · exact ready.text
  · intro column inside
    rcases eq_or_mem_of_mem_placeColumn inside with rfl | inside
    · exact more
    · exact ready.columns column inside

/-- A record stays ready while columns are added one after the other. -/
theorem Ready.foldl_addColumn (position : List Char × List Char → Option UInt64)
    {columns : List (List Char × List Char)} (values : ∀ pair ∈ columns, Markup.Ready false pair.2)
    (ready : record.Ready) :
    (columns.foldl (fun record pair => record.addColumn (position pair) pair.2) record).Ready := by
  induction columns generalizing record with
  | nil => exact ready
  | cons pair columns ih =>
    rcases List.forall_mem_cons.mp values with ⟨here, others⟩
    exact ih others (ready.addColumn _ here)

end Record

/-- Everything of the line at hand is ready for a document. -/
structure Progress.Ready (progress : Progress) : Prop where
  record : ∀ record, progress.record = some record → record.Ready
  column : ∀ position value, progress.column = some (position, value) →
    Markup.Ready false value.toList

theorem Progress.ready_empty : Progress.Ready {} := by
  constructor
  · intro record same
    cases same
  · intro position value same
    cases same

theorem Progress.Ready.addText {progress : Progress} (ready : progress.Ready) {raw : List Char}
    (more : Markup.Ready false raw) : (progress.addText raw).Ready := by
  unfold Progress.addText
  split
  · rename_i position value at_hand
    constructor
    · exact ready.record
    · rintro position' value' same
      cases same
      rw [Growing.toList_add]
      exact (ready.column position value at_hand).append more
  · rename_i no_column
    constructor
    · intro record same
      obtain ⟨record', given, rfl⟩ := Option.map_eq_some_iff.mp same
      exact (ready.record record' given).addText more
    · exact ready.column

namespace Recovery

variable {recovery : Recovery} {state after : RecoveryState} {progress : Progress}

theorem ready_opened (recovery : Recovery) {tag : Tag} (sound : tag.Sound) :
    (recovery.opened tag).Ready := by
  apply Record.Ready.foldl_addColumn (fun pair => recovery.positionOfName? pair.1) _
    Record.ready_empty
  intro pair inside
  exact (sound.ready_attributes pair (List.mem_of_mem_filter inside)).unquoted

/-- **A sound piece of markup advances the line at hand**, and what it leaves is ready again. -/
theorem advance_ready (recovery : Recovery) (ready : progress.Ready) {event : Event}
    (markup : event.raw? = none)
    (sound : ∀ tag, event = .start tag ∨ event = .empty tag → tag.Sound) :
    ∃ line after, recovery.advance progress event = .ok (line, after) ∧ after.Ready := by
  rcases progress with ⟨record, column⟩
  cases event with
  | start tag =>
    have opened := recovery.ready_opened (sound tag (.inl rfl))
    cases record with
    | none =>
      refine ⟨none, _, rfl, ?_⟩
      split
      · constructor
        · rintro record same
          cases same
          exact opened
        · exact ready.column
      · exact ready
    | some record =>
      refine ⟨none, _, rfl, ready.record, ?_⟩
      rintro position value same
      cases same
      exact .nil
  | empty tag =>
    have opened := recovery.ready_opened (sound tag (.inr rfl))
    cases record with
    | none =>
      obtain ⟨line, composed⟩ := recovery.exists_line opened.resolves
      simp only [advance, composed]
      split
      · exact ⟨some line, _, rfl, ready⟩
      · exact ⟨none, _, rfl, ready⟩
    | some record =>
      refine ⟨none, _, rfl, ?_, ready.column⟩
      rintro record' same
      cases same
      exact (ready.record record rfl).addColumn _ .nil
  | finish name =>
    cases column with
    | some column =>
      cases record with
      | none =>
        refine ⟨none, _, rfl, ready.record, ?_⟩
        intro position value same
        cases same
      | some record =>
        refine ⟨none, _, rfl, ?_, ?_⟩
        · rintro record' same
          cases same
          exact (ready.record record rfl).addColumn _ (ready.column column.1 column.2 rfl)
        · intro position value same
          cases same
    | none =>
      cases record with
      | none => exact ⟨none, _, rfl, ready⟩
      | some record =>
        obtain ⟨line, composed⟩ := recovery.exists_line (ready.record record rfl).resolves
        simp only [advance, composed]
        split
        · refine ⟨some line, _, rfl, ?_, ready.column⟩
          intro record' same
          cases same
        · exact ⟨none, _, rfl, ready⟩
  | comment content =>
    cases record with
    | none => exact ⟨some (headerLine content), _, rfl, ready⟩
    | some record => exact ⟨none, _, rfl, ready⟩
  | other => exact ⟨none, _, rfl, ready⟩
  | text raw => cases markup
  | reference name => cases markup
  | cdata content => cases markup

/-! ### Steps -/

/-- **A step that fails only if the sink does**: it goes on with something ready at hand, or else
    the sink refused a line. -/
inductive Proceeds (state : RecoveryState) : RecoveryStep → Prop where
  | on {after : RecoveryState} (ready : after.progress.Ready)
      (free : state.sink.Open → after.sink.Open) : Proceeds state (none, after)
  | refused {after : RecoveryState} (failure : IoFailure) (closed : ¬ state.sink.Open) :
      Proceeds state (some (.io failure), after)

/-- What proceeds from a state proceeds from those before it. -/
theorem Proceeds.earlier {next : RecoveryState} {step : RecoveryStep} (proceeds : Proceeds next step)
    (free : state.sink.Open → next.sink.Open) : Proceeds state step := by
  cases proceeds with
  | on ready free' => exact .on ready (free' ∘ free)
  | refused failure closed => exact .refused failure (closed ∘ free)

variable [MultibyteCodecs]

theorem proceeds_write (recovery : Recovery) (ready : state.progress.Ready) (line : List Char) :
    Proceeds state (recovery.write state line) := by
  unfold write
  rcases taken : state.sink.writeAll (recovery.lineBytes line) with ⟨_ | failure, sink⟩
  · refine .on ready ?_
    intro free
    obtain ⟨after, taken', free'⟩ := free.writeAll (recovery.lineBytes line)
    rw [taken] at taken'
    cases taken'
    exact free'
  · refine .refused failure ?_
    intro free
    obtain ⟨after, taken', -⟩ := free.writeAll (recovery.lineBytes line)
    rw [taken] at taken'
    cases taken'

theorem proceeds_handle (recovery : Recovery) (ready : state.progress.Ready) {event : Event}
    (markup : event.raw? = none)
    (sound : ∀ tag, event = .start tag ∨ event = .empty tag → tag.Sound) :
    Proceeds state (recovery.handle state event) := by
  obtain ⟨line, progress, advanced, ready'⟩ := recovery.advance_ready ready markup sound
  rw [handle_eq, advanced]
  cases line with
  | none => exact .on ready' id
  | some line =>
    have written := @proceeds_write (state.moved progress) _ recovery ready' line
    exact written.earlier id

/-- **Sound passages are handled** as far as the sink takes their lines. -/
theorem proceeds_handlePassages (recovery : Recovery) (ready : state.progress.Ready)
    {between : List Passage} (sound : ∀ passage ∈ between, passage.Sound) :
    Proceeds state (recovery.handlePassages state between) := by
  induction between generalizing state with
  | nil => exact .on ready id
  | cons passage between ih =>
    rcases List.forall_mem_cons.mp sound with ⟨here, others⟩
    have added : (state.addText passage.before).progress.Ready := by
      rw [RecoveryState.addText_eq]
      exact ready.addText here.before
    have same : (state.addText passage.before).sink = state.sink := by
      rw [RecoveryState.addText_eq]
      rfl
    have step : Proceeds state _ :=
      (recovery.proceeds_handle added here.markup here.tag).earlier (by rw [same]; exact id)
    rw [handlePassages]
    generalize recovery.handle (state.addText passage.before) passage.event = handled at step
    cases step with
    | on ready' free => exact (ih ready' others).earlier free
    | refused failure closed => exact .refused failure closed

/-! ### Runs -/

/-- **A document of sound passages is recovered**, however its bytes are served: a run comes to
    its end, unless the sink does not take its lines. -/
theorem run_of_sound {document : Source} {charset : Charset} {rest left : List Char}
    {between : List Passage} (served : document.failure? = none)
    (output : recovery.style.outputCharset? = .ok charset)
    (decoded : charset.decode document.bytes = '<' :: rest)
    (spans : Spans [] [] ('<' :: rest) between left [])
    (sound : ∀ passage ∈ between, passage.Sound) (sink : Sink) :
    (∀ failure, (recovery.run document sink).result = .error failure →
        ∃ refusal, failure = .io refusal)
      ∧ (sink.Open → ∃ count, (recovery.run document sink).result = .ok count) := by
  obtain ⟨made, run⟩ := run_eq_of_spans served output decoded spans sink
  have handled := @proceeds_handlePassages (start charset sink) _ recovery Progress.ready_empty
    between sound
  rw [run]
  generalize recovery.handlePassages (start charset sink) between = step at handled
  cases handled with
  | @on after ready free =>
    constructor
    · intro failure failed
      cases flush : after.sink.flushFailure with
      | none =>
        rw [flushed, flush] at failed
        cases failed
      | some refusal =>
        rw [flushed, flush] at failed
        cases failed
        exact ⟨refusal, rfl⟩
    · intro accepting
      exact ⟨after.written, by rw [flushed, (free accepting).flushes]; rfl⟩
  | refused failure closed =>
    constructor
    · intro failure' failed
      cases failed
      exact ⟨failure, rfl⟩
    · intro accepting
      exact absurd accepting closed

end Recovery

end FlatFile
