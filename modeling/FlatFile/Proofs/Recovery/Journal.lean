/-
  FlatFile/Proofs/Recovery/Journal.lean
  =====================================
  **What a run does, whether it comes to its end or not.**

  The events of a document, and the failure that ends them if there is one, are told by
  the document alone (`Markup.documentReport`).  A run handles these events, up to the
  first failure, flushes the sink, and does nothing else (`run_eq`).

  The document is taken byte by byte, block by block and window by window.  Where its text
  spans passages, this leaves no trace: the events are those of the passages, however the
  bytes are served (`documentReport_of_spans`), so a run ends as the passages do
  (`run_eq_of_spans`).
-/
import FlatFile.Proofs.Charset.Blocks
import FlatFile.Proofs.Recovery.Events
import FlatFile.Proofs.Stream.Content

namespace FlatFile

variable [MultibyteCodecs]

namespace Markup

/-! ### The events of a document -/

/-- Some events, and the failure that ends them or how the reading goes on. -/
abbrev Report (α : Type) := List Event × Except Failure α

def Report.andThen {α β : Type} (report : Report α) (next : α → Report β) : Report β :=
  match report.2 with
  | .error failure => (report.1, .error failure)
  | .ok state => (report.1 ++ (next state).1, (next state).2)

namespace Reader

def reportOfChar (reader : Reader) (c : Char) : Report Reader :=
  match reader.step c with
  | .error fault => ([], .error (.document (.markup fault)))
  | .ok (event, next) => (event.toList, .ok next)

def reportOf (reader : Reader) : List Char → Report Reader
  | [] => ([], .ok reader)
  | c :: rest => (reader.reportOfChar c).andThen fun next => next.reportOf rest

/-- The events of some windows, each of which ends with a pause. -/
def reportOfWindows (reader : Reader) : List (List Char) → Report Reader
  | [] => ([], .ok reader)
  | window :: rest =>
    (reader.reportOf window).andThen fun next => next.pause.reportOfWindows rest

/-- The events at the end of a document. -/
def reportOfEnd (reader : Reader) (decoder : Decoder) : Report Unit :=
  (reader.reportOf decoder.finish).andThen fun last =>
    match last.finish with
    | .error fault => ([], .error (.document (.markup fault)))
    | .ok event => (event.toList, .ok ())

end Reader

/-- **The events of what is left of a document.** -/
def reportOf (decoder : Decoder) (reader : Reader) : Source → Report Unit
  | [] => reader.reportOfEnd decoder
  | .data [] :: _ => reader.reportOfEnd decoder
  | .data (b :: bytes) :: rest =>
    (reader.reportOfWindows (Recovery.windows blockSize (decoder.feed (b :: bytes)).1)).andThen
      fun next => reportOf (decoder.feed (b :: bytes)).2 next rest
  | .failure failure :: rest =>
    if failure.kind = .interrupted then reportOf decoder reader rest
    else ([], .error (.document (.unreadable failure)))

/-- The events of a whole document. -/
def documentReport (charset : Charset) (document : Source) : Report Unit :=
  reportOf (.new charset) .new document.inBlocks

end Markup

namespace Markup

/-! ### Documents whose text is read -/

namespace Reader

variable {reader last : Reader} {events : List Event}

omit [MultibyteCodecs] in
theorem reportOf_of_reads {chars : List Char} (h : Reads reader chars events last) :
    reader.reportOf chars = (events, .ok last) := by
  induction h with
  | nil => rfl
  | cons step calm more ih =>
    rw [reportOf, reportOfChar, step]
    dsimp only [Report.andThen]
    rw [ih]

omit [MultibyteCodecs] in
theorem reportOfWindows_of_reads {windows : List (List Char)} (calm : reader.pause = reader)
    (h : Reads reader windows.flatten events last) :
    reader.reportOfWindows windows = (events, .ok last) := by
  induction windows generalizing reader events with
  | nil =>
    cases h
    rfl
  | cons window windows ih =>
    rw [List.flatten_cons] at h
    rcases h.split with ⟨middle, before, later, first, rest, rfl⟩
    have calm' := first.calm calm
    rw [reportOfWindows, reportOf_of_reads first]
    dsimp only [Report.andThen]
    rw [calm', ih calm' rest]

theorem reportOfEnd_of_reads {decoder : Decoder} {final : Option Event}
    (h : Reads reader decoder.finish events last) (ending : last.finish = .ok final) :
    reader.reportOfEnd decoder = (events ++ final.toList, .ok ()) := by
  rw [reportOfEnd, reportOf_of_reads h]
  dsimp only [Report.andThen]
  rw [ending]

end Reader

/-- **However its bytes are served**, a text that can be read gives its events. -/
theorem reportOf_of_reads {source : Source} {decoder : Decoder} {reader last : Reader}
    {events : List Event} {final : Option Event} (served : source.failure? = none)
    (calm : reader.pause = reader)
    (h : Reader.Reads reader (decoder.rest source.bytes) events last)
    (ending : last.finish = .ok final) :
    reportOf decoder reader source = (events ++ final.toList, .ok ()) := by
  -- What is still to be read of the text is that of the bytes to come after the state of the
  -- decoder; a block moves its part of it to the events reported.
  induction source generalizing decoder reader events with
  | nil =>
    rw [Source.bytes, Decoder.rest_nil] at h
    exact Reader.reportOfEnd_of_reads h ending
  | cons reading rest ih =>
    cases reading with
    | failure failure =>
      simp only [Source.failure?] at served
      split at served
      · rename_i retried
        rw [Source.bytes, if_pos retried] at h
        rw [reportOf, if_pos retried]
        exact ih served calm h
      · cases served
    | data block =>
      cases block with
      | nil =>
        rw [Source.bytes, Decoder.rest_nil] at h
        exact Reader.reportOfEnd_of_reads h ending
      | cons b block =>
        rw [Source.bytes, Decoder.rest_append] at h
        rcases h.split with ⟨middle, before, later, first, others, rfl⟩
        have windows : Reader.Reads reader (Recovery.windows blockSize
            (decoder.feed (b :: block)).1).flatten before middle := by
          rwa [Recovery.windows_flatten]
        rw [reportOf, Reader.reportOfWindows_of_reads calm windows]
        dsimp only [Report.andThen]
        rw [ih served (first.calm calm) others, List.append_assoc]

/-- **The events of a document come to the passages that its text spans.** -/
theorem documentReport_of_spans {document : Source} {charset : Charset} {rest left : List Char}
    {between : List Passage} (served : document.failure? = none)
    (decoded : charset.decode document.bytes = '<' :: rest)
    (spans : Spans [] [] ('<' :: rest) between left []) :
    ∃ events, documentReport charset document = (events, .ok ())
      ∧ passages [] events = (between, left) := by
  obtain ⟨events, left', seen, reads, passed, held⟩ := spans [] [] rfl
  have content := Source.content_inBlocks document
  have begun : Reader.Reads .new ((Decoder.new charset).rest document.inBlocks.bytes) events
      ⟨.text seen, []⟩ := by
    rw [content.1, Decoder.rest_new, decoded]
    exact Reader.reads_new (by decide) reads
  refine ⟨events ++ (textEvent seen).toList,
    reportOf_of_reads (content.2.trans served) rfl begun rfl, ?_⟩
  rw [passages_append, passed, passages_textEvent, held, List.append_nil]

end Markup

open Markup

namespace Recovery

variable {recovery : Recovery} {state after : RecoveryState}

/-! ### Steps beside the reading -/

/-- What some events do, and then what ends them. -/
def settle {α : Type} (recovery : Recovery) (state : RecoveryState) (report : Report α) :
    RecoveryStep :=
  match recovery.handleAll state report.1 with
  | (some failure, after) => (some failure, after)
  | (none, after) =>
    match report.2 with
    | .error failure => (some failure, after)
    | .ok _ => (none, after)

/-- Two steps that differ at most in what has been read. -/
def Agrees (step other : RecoveryStep) : Prop :=
  ∃ decoder reader, step = (other.1, { other.2 with decoder, reader })

section

omit [MultibyteCodecs]

theorem Agrees.refl (step : RecoveryStep) : Agrees step step :=
  ⟨step.2.decoder, step.2.reader, rfl⟩

theorem Agrees.trans {step other third : RecoveryStep} (first : Agrees step other)
    (second : Agrees other third) : Agrees step third := by
  rcases first with ⟨decoder, reader, rfl⟩
  rcases second with ⟨decoder', reader', rfl⟩
  exact ⟨decoder, reader, rfl⟩

theorem Agrees.fst {step other : RecoveryStep} (agrees : Agrees step other) :
    step.1 = other.1 := by
  rcases agrees with ⟨decoder, reader, rfl⟩
  rfl

end

theorem settle_beside {α : Type} (recovery : Recovery) (state : RecoveryState) (report : Report α)
    (decoder : Decoder) (reader : Reader) :
    Agrees (recovery.settle { state with decoder, reader } report)
      (recovery.settle state report) := by
  refine ⟨decoder, reader, ?_⟩
  unfold settle
  rw [handleAll_beside]
  rcases recovery.handleAll state report.1 with ⟨_ | failure, next⟩
  · cases report.2 with
    | error failure => rfl
    | ok _ => rfl
  · rfl

theorem settle_andThen_failed {α β : Type} {report : Report α} {failure : Failure}
    (failed : recovery.settle state report = (some failure, after)) (next : α → Report β) :
    recovery.settle state (report.andThen next) = (some failure, after) := by
  rcases report with ⟨events, ending⟩
  unfold settle at failed
  cases ending with
  | error failure' => exact failed
  | ok start =>
    rw [Report.andThen, settle, handleAll_append]
    rcases handled : recovery.handleAll state events with ⟨_ | failure', after'⟩
    · simp only [handled] at failed
      cases failed
    · simp only [handled] at failed
      exact failed

theorem settle_andThen_whole {α β : Type} {report : Report α} {start : α}
    (whole : recovery.settle state report = (none, after)) (ending : report.2 = .ok start)
    (next : α → Report β) :
    recovery.settle state (report.andThen next) = recovery.settle after (next start) := by
  rcases report with ⟨events, last⟩
  cases ending
  unfold settle at whole
  rw [Report.andThen, settle, handleAll_append]
  rcases handled : recovery.handleAll state events with ⟨_ | failure', after'⟩
  · simp only [handled] at whole
    cases whole
    rfl
  · simp only [handled] at whole
    cases whole

theorem handleAll_of_settle {α : Type} {report : Report α}
    (settled : recovery.settle state report = (none, after)) :
    recovery.handleAll state report.1 = (none, after) := by
  unfold settle at settled
  split at settled
  · cases settled
  · rename_i handled
    rw [handled]
    split at settled
    · cases settled
    · cases settled
      rfl

/-! ### Characters and blocks -/

/-- **A step does what some events do**, and the reading goes on where they end. -/
structure Follows (recovery : Recovery) (state : RecoveryState) (report : Report Reader)
    (step : RecoveryStep) : Prop where
  agrees : Agrees step (recovery.settle state report)
  reader : step.1 = none → report.2 = .ok step.2.reader
  decoder : step.1 = none → step.2.decoder = state.decoder

/-- After a step that follows the first events, the others settle as they do after these. -/
theorem Follows.settle_andThen {α : Type} {report : Report Reader} {middle : RecoveryState}
    (first : recovery.Follows state report (none, middle)) (next : Reader → Report α) :
    Agrees (recovery.settle middle (next middle.reader))
      (recovery.settle state (report.andThen next)) := by
  have whole : recovery.settle state report = (none, (recovery.settle state report).2) :=
    Prod.ext first.agrees.fst.symm rfl
  rw [settle_andThen_whole whole (first.reader rfl)]
  rcases first.agrees with ⟨decoder, reader, same⟩
  have beside : middle = { (recovery.settle state report).2 with decoder, reader } :=
    congrArg (·.2) same
  have apart := settle_beside recovery (recovery.settle state report).2 (next middle.reader)
    decoder reader
  rwa [← beside] at apart

theorem Follows.settle_andThen_failed {α : Type} {report : Report Reader} {failure : Failure}
    (first : recovery.Follows state report (some failure, after)) (next : Reader → Report α) :
    Agrees (some failure, after) (recovery.settle state (report.andThen next)) := by
  have failed : recovery.settle state report = (some failure, (recovery.settle state report).2) :=
    Prod.ext first.agrees.fst.symm rfl
  rw [Recovery.settle_andThen_failed failed next, ← failed]
  exact first.agrees

/-- A step that goes on where another one ended follows the events of both. -/
theorem Follows.andThen {report : Report Reader} {next : Reader → Report Reader}
    {middle : RecoveryState} {step : RecoveryStep}
    (first : recovery.Follows state report (none, middle))
    (second : recovery.Follows middle (next middle.reader) step) :
    recovery.Follows state (report.andThen next) step where
  agrees := second.agrees.trans (first.settle_andThen next)
  reader whole := by
    rw [Report.andThen, first.reader rfl]
    exact second.reader whole
  decoder whole := (second.decoder whole).trans (first.decoder rfl)

theorem Follows.failed {report : Report Reader} {failure : Failure}
    (first : recovery.Follows state report (some failure, after)) (next : Reader → Report Reader) :
    recovery.Follows state (report.andThen next) (some failure, after) where
  agrees := first.settle_andThen_failed next
  reader whole := absurd whole (Option.some_ne_none _)
  decoder whole := absurd whole (Option.some_ne_none _)

/-- An event that a reader reports on its way, if it reports one. -/
theorem handleOption_follows (recovery : Recovery) (state : RecoveryState)
    (event : Option Event) (reader : Reader) :
    recovery.Follows state (event.toList, .ok reader)
      (recovery.handleOption { state with reader } event) := by
  cases event with
  | none => exact ⟨⟨state.decoder, reader, rfl⟩, fun _ => rfl, fun _ => rfl⟩
  | some event =>
    rw [handleOption, handle_beside recovery state event state.decoder reader]
    refine ⟨⟨state.decoder, reader, ?_⟩, fun _ => rfl, fun _ => rfl⟩
    rw [settle, Option.toList_some, handleAll]
    rcases recovery.handle state event with ⟨_ | failure, next⟩
    · rfl
    · rfl

theorem takeChar_follows (recovery : Recovery) (state : RecoveryState) (c : Char) :
    recovery.Follows state (state.reader.reportOfChar c) (recovery.takeChar state c) := by
  rw [takeChar, Reader.reportOfChar]
  cases state.reader.step c with
  | error fault =>
    exact ⟨Agrees.refl _, fun whole => absurd whole (Option.some_ne_none _),
      fun whole => absurd whole (Option.some_ne_none _)⟩
  | ok taken => exact handleOption_follows recovery state taken.1 taken.2

theorem takeChars_follows (recovery : Recovery) (state : RecoveryState) (chars : List Char) :
    recovery.Follows state (state.reader.reportOf chars) (recovery.takeChars state chars) := by
  induction chars generalizing state with
  | nil => exact ⟨Agrees.refl _, fun _ => rfl, fun _ => rfl⟩
  | cons c rest ih =>
    have first := takeChar_follows recovery state c
    rw [takeChars, Reader.reportOf]
    rcases taken : recovery.takeChar state c with ⟨_ | failure, middle⟩
    · rw [taken] at first
      exact first.andThen (ih middle)
    · rw [taken] at first
      exact first.failed _

theorem takeWindows_follows (recovery : Recovery) (state : RecoveryState)
    (windows : List (List Char)) :
    recovery.Follows state (state.reader.reportOfWindows windows)
      (recovery.takeWindows state windows) := by
  induction windows generalizing state with
  | nil => exact ⟨Agrees.refl _, fun _ => rfl, fun _ => rfl⟩
  | cons window rest ih =>
    have first := takeChars_follows recovery state window
    rw [takeWindows, Reader.reportOfWindows]
    rcases taken : recovery.takeChars state window with ⟨_ | failure, middle⟩
    · rw [taken] at first
      -- The pause changes nothing but the reader, which the events start from.
      have paused := ih { middle with reader := middle.reader.pause }
      exact first.andThen ⟨paused.agrees.trans (settle_beside recovery middle _ _ _),
        paused.reader, paused.decoder⟩
    · rw [taken] at first
      exact first.failed _

/-! ### The run -/

/-- A step at the end of a document, after which the sink is flushed. -/
def flushed : RecoveryStep → RecoveryStep
  | (some failure, state) => (some failure, state)
  | (none, state) => (state.sink.flushFailure.map .io, state)

section

omit [MultibyteCodecs]

theorem flushed_eq_none {step : RecoveryStep} (whole : flushed step = (none, after)) :
    step = (none, after) := by
  rcases step with ⟨_ | failure, state⟩
  · rw [flushed] at whole
    cases Prod.mk.inj whole |>.2
    rfl
  · cases whole

theorem Agrees.flushed {step other : RecoveryStep} (agrees : Agrees step other) :
    Agrees (flushed step) (flushed other) := by
  rcases agrees with ⟨decoder, reader, rfl⟩
  rcases other with ⟨_ | failure, state⟩
  · exact ⟨decoder, reader, rfl⟩
  · exact ⟨decoder, reader, rfl⟩

theorem Agrees.outcome {step other : RecoveryStep} (agrees : Agrees step other) (reads : Nat) :
    outcome reads step = outcome reads other := by
  rcases agrees with ⟨decoder, reader, rfl⟩
  rcases other with ⟨_ | failure, state⟩
  · rfl
  · rfl

end

theorem takeEnd_agrees (recovery : Recovery) (state : RecoveryState) :
    Agrees (recovery.takeEnd state)
      (flushed (recovery.settle state (state.reader.reportOfEnd state.decoder))) := by
  have first := takeChars_follows recovery state state.decoder.finish
  rw [takeEnd, Reader.reportOfEnd]
  rcases taken : recovery.takeChars state state.decoder.finish with ⟨_ | failure, middle⟩
  · rw [taken] at first
    refine Agrees.trans ?_ (first.settle_andThen _).flushed
    dsimp only
    cases middle.reader.finish with
    | error fault => exact Agrees.refl _
    | ok event =>
      have last := (handleOption_follows recovery middle event middle.reader).agrees.flushed
      exact last
  · rw [taken] at first
    exact (first.settle_andThen_failed _).flushed

/-- **A run handles the events of its document**, up to the first failure, and flushes the sink
    if there is none. -/
theorem runFrom_eq (recovery : Recovery) (state : RecoveryState) (document : Source)
    (reads : Nat) :
    ∃ made, recovery.runFrom state reads document =
      outcome made (flushed (recovery.settle state
        (reportOf state.decoder state.reader document))) := by
  induction document generalizing state reads with
  | nil => exact ⟨reads, (takeEnd_agrees recovery state).outcome reads⟩
  | cons reading rest ih =>
    cases reading with
    | failure failure =>
      rw [runFrom, reportOf]
      split
      · exact ih state (reads + 1)
      · exact ⟨reads + 1, rfl⟩
    | data block =>
      cases block with
      | nil => exact ⟨reads + 1, (takeEnd_agrees recovery state).outcome (reads + 1)⟩
      | cons b bytes =>
        -- The decoder goes on first, which no event depends on.
        have begun := takeWindows_follows recovery
          { state with decoder := (state.decoder.feed (b :: bytes)).2 }
          (windows blockSize (state.decoder.feed (b :: bytes)).1)
        have apart (report : Report Unit) := settle_beside recovery state report
          (state.decoder.feed (b :: bytes)).2 state.reader
        rw [runFrom, reportOf, takeBlock]
        dsimp only
        rcases taken : recovery.takeWindows
          { state with decoder := (state.decoder.feed (b :: bytes)).2 }
          (windows blockSize (state.decoder.feed (b :: bytes)).1) with ⟨_ | failure, middle⟩
        · rw [taken] at begun
          obtain ⟨made, more⟩ := ih middle (reads + 1)
          have rest := (begun.settle_andThen fun next => reportOf middle.decoder next rest).trans
            (apart _)
          rw [begun.decoder rfl] at rest more
          exact ⟨made, more.trans (rest.flushed.outcome made)⟩
        · rw [taken] at begun
          exact ⟨reads + 1,
            ((begun.settle_andThen_failed _).trans (apart _)).flushed.outcome (reads + 1)⟩

/-- A recovery at the start of a document. -/
def start (charset : Charset) (sink : Sink) : RecoveryState :=
  { decoder := .new charset, reader := .new, record := none, column := none, written := 0, sink }

/-- A run is decided by the events of its document and by its sink; only the number of its reads
    is left open. -/
theorem run_eq {charset : Charset} (output : recovery.style.outputCharset? = .ok charset)
    (document : Source) (sink : Sink) :
    ∃ made, recovery.run document sink =
      outcome made (flushed (recovery.settle (start charset sink)
        (documentReport charset document))) := by
  rw [run, output]
  exact runFrom_eq recovery (start charset sink) document.inBlocks 0

omit [MultibyteCodecs] in
/-- The text after the last passage makes no difference. -/
theorem outcome_addText (made : Nat) (state : RecoveryState) (raw : List Char) :
    outcome made (flushed (none, state.addText raw)) = outcome made (flushed (none, state)) := by
  have kept : (state.addText raw).sink = state.sink
      ∧ (state.addText raw).written = state.written := by
    unfold RecoveryState.addText
    split
    · exact ⟨rfl, rfl⟩
    · exact ⟨rfl, rfl⟩
  rw [flushed, flushed, kept.1]
  cases state.sink.flushFailure with
  | none => simp only [Option.map_none, outcome, kept]
  | some failure => simp only [Option.map_some, outcome, kept]

/-- **A run handles the passages that the text of its document spans.** -/
theorem run_eq_of_spans {document : Source} {charset : Charset} {rest left : List Char}
    {between : List Passage} (served : document.failure? = none)
    (output : recovery.style.outputCharset? = .ok charset)
    (decoded : charset.decode document.bytes = '<' :: rest)
    (spans : Spans [] [] ('<' :: rest) between left []) (sink : Sink) :
    ∃ made, recovery.run document sink = outcome made (flushed
      (recovery.handlePassages (start charset sink) between)) := by
  obtain ⟨made, same⟩ := run_eq output document sink
  obtain ⟨events, report, passed⟩ := documentReport_of_spans served decoded spans
  have handled := recovery.handleAll_eq (start charset sink) [] events
  rw [RecoveryState.addText_nil, passed] at handled
  refine ⟨made, same.trans ?_⟩
  rw [report, settle]
  dsimp only
  rw [handled]
  rcases recovery.handlePassages (start charset sink) between with ⟨_ | failure, after⟩
  · exact outcome_addText made after left
  · rfl

end Recovery

end FlatFile
