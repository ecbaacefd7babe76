/-
  FlatFile/Proofs/Recovery/CutShort.lean
  ======================================
  **A document that is cut short never yields a wrong line.**

  What a document gives before the place of a cut does not depend on what follows it, and
  the end of input adds text at most: an unfinished character reads as U+FFFD, which is no
  markup, and nothing but markup completes a line.  So the events of a document that is cut
  short are the first events of the whole one and perhaps a last run of text
  (`shortened_documentReport`), and the lines are the first lines (`recovers_shortened`).

  The cut may be anywhere: in a character, a tag, a reference, a comment.  It may also be
  anywhere in the windows in which the text is read, whose ends a document type declaration
  can tell.
-/
import FlatFile.Charset.AsciiOnly
import FlatFile.Proofs.Charset.Pages
import FlatFile.Proofs.Markup.Steps
import FlatFile.Proofs.Recovery.Parts

namespace FlatFile

open Markup

/-! ### The end of a text that is cut short -/

/-- A decoder whose unfinished input reads as U+FFFD, if it reads as anything. -/
inductive Decoder.Forgetful : Decoder → Prop where
  | utf8 (state : Utf8State) (atStart : Bool) : Forgetful ⟨.utf8 state, atStart⟩
  | userDefined (atStart : Bool) : Forgetful ⟨.userDefined, atStart⟩
  | page (codePage : CodePage) (atStart : Bool) : Forgetful ⟨.page codePage, atStart⟩

section

variable [MultibyteCodecs]

namespace Decoder

theorem forgetful_new {charset : Charset} (narrow : charset = .utf8 ∨ charset.SingleByte) :
    (new charset).Forgetful := by
  rcases narrow with rfl | single
  · exact .utf8 _ _
  · cases single with
    | userDefined => exact .userDefined _
    | page codePage => exact .page codePage _

theorem Forgetful.feed {decoder : Decoder} (forgetful : decoder.Forgetful) (block : List UInt8) :
    (decoder.feed block).2.Forgetful := by
  -- A byte changes the state of a decoder, but not which sort of state it is.
  have kept (state : DecoderState) (atStart : Bool) (forgetful : Forgetful ⟨state, atStart⟩)
      (atStart' : Bool) : Forgetful ⟨(state.run block).2, atStart'⟩ := by
    induction block generalizing state with
    | nil =>
      cases forgetful with
      | utf8 state => exact .utf8 state _
      | userDefined => exact .userDefined _
      | page codePage => exact .page codePage _
    | cons b block ih =>
      rw [DecoderState.run]
      apply ih
      cases forgetful with
      | utf8 state => exact .utf8 _ _
      | userDefined => exact .userDefined _
      | page codePage => exact .page codePage _
  exact kept _ _ forgetful _

theorem Forgetful.finish {decoder : Decoder} (forgetful : decoder.Forgetful) :
    ∀ c ∈ decoder.finish, c = replacementChar := by
  have dropped (atStart : Bool) (chars : List Char) (c : Char)
      (inside : c ∈ dropMark atStart chars) : c ∈ chars := by
    unfold dropMark at inside
    split at inside
    · split at inside
      · exact List.mem_cons_of_mem _ inside
      · exact inside
    · exact inside
  intro c inside
  have owed := dropped _ _ c inside
  cases forgetful with
  | utf8 state =>
    cases state with
    | idle => cases owed
    | partway needed low high bits => exact List.mem_singleton.mp owed
  | userDefined => cases owed
  | page codePage => cases owed

end Decoder

/-! ### Reports of a document that is cut short -/

namespace Markup

def Event.isText : Event → Bool
  | .text _ => true
  | _ => false

/-- **One report is that of a text cut short**: it begins like the other one, and adds text at
    most. -/
def Report.Shortened {α β : Type} (short : Report α) (long : Report β) : Prop :=
  ∃ common texts, short.1 = common ++ texts ∧ common <+: long.1
    ∧ ∀ event ∈ texts, event.isText = true

namespace Report

variable {α β γ : Type}

section

omit [MultibyteCodecs]

theorem shortened_self (short : Report α) {long : Report β} (same : short.1 = long.1) :
    short.Shortened long :=
  ⟨short.1, [], (List.append_nil _).symm, same ▸ List.prefix_rfl, nofun⟩

theorem shortened_of_texts {short : Report α} (texts : ∀ event ∈ short.1, event.isText = true)
    (long : Report β) : short.Shortened long :=
  ⟨[], short.1, rfl, List.nil_prefix, texts⟩

theorem andThen_ok (events : List Event) (state : α) (next : α → Report β) :
    andThen (events, .ok state) next = (events ++ (next state).1, (next state).2) := rfl

theorem andThen_assoc (report : Report α) (next : α → Report β) (last : β → Report γ) :
    (report.andThen next).andThen last = report.andThen fun state => (next state).andThen last := by
  rcases report with ⟨events, failure | state⟩
  · rfl
  · rw [andThen_ok, andThen_ok]
    rcases next state with ⟨more, failure | state'⟩
    · rfl
    · rw [andThen_ok, andThen_ok, List.append_assoc]

theorem Shortened.andThen {next : α → Report β} {next' : α → Report γ} (first : Report α)
    (shortened : ∀ state, (next state).Shortened (next' state)) :
    (first.andThen next).Shortened (first.andThen next') := by
  rcases first with ⟨events, failure | state⟩
  · exact shortened_self (events, .error failure) rfl
  · obtain ⟨common, texts, split, begins, last⟩ := shortened state
    refine ⟨events ++ common, texts, ?_, ?_, last⟩
    · rw [andThen_ok, split, List.append_assoc]
    · exact (List.prefix_append_right_inj _).mpr begins

end

end Report

namespace Reader

section

omit [MultibyteCodecs]

theorem reportOf_append (reader : Reader) (chars more : List Char) :
    reader.reportOf (chars ++ more) = (reader.reportOf chars).andThen fun next => next.reportOf more := by
  induction chars generalizing reader with
  | nil => rfl
  | cons c chars ih =>
    rw [List.cons_append, reportOf, reportOf, Report.andThen_assoc]
    exact congrArg _ (funext ih)

theorem reportOfWindows_append (reader : Reader) (windows more : List (List Char)) :
    reader.reportOfWindows (windows ++ more) =
      (reader.reportOfWindows windows).andThen fun next => next.reportOfWindows more := by
  induction windows generalizing reader with
  | nil => rfl
  | cons window windows ih =>
    rw [List.cons_append, reportOfWindows, reportOfWindows, Report.andThen_assoc]
    exact congrArg _ (funext fun next => ih next.pause)

/-- Replacement characters complete nothing. -/
theorem reportOf_replacement {chars : List Char} (replaced : ∀ c ∈ chars, c = replacementChar)
    (reader : Reader) : (reader.reportOf chars).1 = [] := by
  induction chars generalizing reader with
  | nil => rfl
  | cons c chars ih =>
    obtain ⟨rfl, others⟩ := List.forall_mem_cons.mp replaced
    rw [reportOf, reportOfChar]
    cases step : reader.step replacementChar with
    | error fault => rfl
    | ok taken =>
      rcases taken with ⟨event, next⟩
      rw [event_eq_none_of_quiet (by decide) step]
      exact ih others next

theorem texts_finish {reader : Reader} {event : Option Event} (finished : reader.finish = .ok event) :
    ∀ only ∈ event.toList, only.isText = true := by
  unfold Reader.finish at finished
  split at finished
  · cases finished
    exact nofun
  · cases finished
    unfold textEvent
    split
    · exact nofun
    · intro only inside
      cases List.mem_singleton.mp inside
      rfl
  all_goals cases finished

end

/-- **The end of a text that is cut short gives text at most.** -/
theorem texts_reportOfEnd {decoder : Decoder} (forgetful : decoder.Forgetful) (reader : Reader) :
    ∀ event ∈ (reader.reportOfEnd decoder).1, event.isText = true := by
  have nothing := reportOf_replacement forgetful.finish reader
  rw [reportOfEnd]
  rcases read : reader.reportOf decoder.finish with ⟨events, failure | last⟩
  · rw [read] at nothing
    cases nothing
    intro event inside
    cases inside
  · rw [read] at nothing
    cases nothing
    rw [Report.andThen_ok, List.nil_append]
    cases finished : last.finish with
    | error fault =>
      intro event inside
      cases inside
    | ok event => exact texts_finish finished

/-! ### Windows -/

omit [MultibyteCodecs] in
/-- **Windows of a text that goes on** are those of its beginning, the last of which may have
    become longer, and some more. -/
theorem exists_windows_append (chars more : List Char) (some_chars : chars ≠ []) (room : Nat) :
    ∃ before last longer after, Recovery.windows room chars = before ++ [last]
      ∧ Recovery.windows room (chars ++ more) = before ++ (last ++ longer) :: after := by
  induction chars generalizing room with
  | nil => exact absurd rfl some_chars
  | cons c chars ih =>
    rw [List.cons_append, Recovery.windows, Recovery.windows]
    cases chars with
    | nil =>
      rw [List.nil_append]
      split
      · cases Recovery.windows (room - c.utf8Size) more with
        | nil => exact ⟨[], [c], [], [], rfl, rfl⟩
        | cons window windows => exact ⟨[], [c], window, windows, rfl, rfl⟩
      · exact ⟨[], [c], [], _, rfl, rfl⟩
    | cons d chars =>
      split
      · obtain ⟨before, last, longer, after, short, long⟩ :=
          ih (List.cons_ne_nil _ _) (room - c.utf8Size)
        rw [short, long]
        cases before with
        | nil => exact ⟨[], c :: last, longer, after, rfl, rfl⟩
        | cons window before => exact ⟨(c :: window) :: before, last, longer, after, rfl, rfl⟩
      · obtain ⟨before, last, longer, after, short, long⟩ :=
          ih (List.cons_ne_nil _ _) (room + blockSize - c.utf8Size)
        rw [short, long]
        exact ⟨[c] :: before, last, longer, after, rfl, rfl⟩

/-- **The cut in a text**: up to it the windows are the same, then there is only the end. -/
theorem shortened_reportOfWindows {decoder : Decoder} (forgetful : decoder.Forgetful)
    (reader : Reader) (chars more : List Char) (later : Reader → Report Unit) :
    ((reader.reportOfWindows (Recovery.windows blockSize chars)).andThen
        fun next => next.reportOfEnd decoder).Shortened
      ((reader.reportOfWindows (Recovery.windows blockSize (chars ++ more))).andThen later) := by
  by_cases nothing : chars = []
  · subst nothing
    exact Report.shortened_of_texts (texts_reportOfEnd forgetful reader) _
  · obtain ⟨before, last, longer, after, short, long⟩ :=
      exists_windows_append chars more nothing blockSize
    rw [short, long, reportOfWindows_append, reportOfWindows_append, Report.andThen_assoc,
      Report.andThen_assoc]
    refine Report.Shortened.andThen _ fun middle => ?_
    -- What is left is the window with the cut in it; its beginning is read in both.
    rw [reportOfWindows, reportOfWindows, reportOf_append, Report.andThen_assoc,
      Report.andThen_assoc, Report.andThen_assoc]
    refine Report.Shortened.andThen _ fun here => ?_
    exact Report.shortened_of_texts (texts_reportOfEnd forgetful here.pause) _

end Reader

/-! ### Blocks -/

/-- What comes after the same blocks decides whether one document is the other cut short. -/
theorem shortened_reportOf_append {short long : Source}
    (shortened : ∀ (decoder : Decoder) (reader : Reader), decoder.Forgetful →
      (reportOf decoder reader short).Shortened (reportOf decoder reader long))
    (front : Source) (decoder : Decoder) (reader : Reader) (forgetful : decoder.Forgetful) :
    (reportOf decoder reader (front ++ short)).Shortened
      (reportOf decoder reader (front ++ long)) := by
  induction front generalizing decoder reader with
  | nil => exact shortened decoder reader forgetful
  | cons reading front ih =>
    rw [List.cons_append, List.cons_append]
    cases reading with
    | failure failure =>
      rw [reportOf, reportOf]
      split
      · exact ih decoder reader forgetful
      · exact Report.shortened_self _ rfl
    | data block =>
      cases block with
      | nil => exact Report.shortened_self _ rfl
      | cons b bytes =>
        rw [reportOf, reportOf]
        exact Report.Shortened.andThen _ fun next => ih _ next (forgetful.feed _)

/-- The cut in a block that is read in pieces. -/
theorem shortened_reportOf_pieces {part block : List UInt8} (cut : part <+: block) (rest : Source)
    (most : Nat) (decoder : Decoder) (reader : Reader) (forgetful : decoder.Forgetful) :
    (reportOf decoder reader ((pieces most part).map .data)).Shortened
      (reportOf decoder reader ((pieces most block).map .data ++ rest)) := by
  induction part using pieces.induct most generalizing block decoder reader with
  | case1 =>
    rw [pieces]
    exact Report.shortened_of_texts (reader.texts_reportOfEnd forgetful) _
  | case2 b bytes ih =>
    obtain ⟨tail, rfl⟩ := cut
    rw [List.cons_append, pieces, pieces, List.map_cons, List.map_cons, List.cons_append, reportOf,
      reportOf]
    by_cases inside : bytes.length ≤ most
    · -- The cut is in this piece.
      have longer : b :: (bytes ++ tail).take most =
          (b :: bytes) ++ tail.take (most - bytes.length) := by
        rw [List.take_append, List.take_of_length_le inside, List.cons_append]
      rw [List.take_of_length_le inside, List.drop_of_length_le inside, pieces, longer,
        Decoder.feed_append]
      exact reader.shortened_reportOfWindows (forgetful.feed _) _ _ _
    · have within : most ≤ bytes.length := Nat.le_of_not_le inside
      rw [List.take_append_of_le_length within, List.drop_append_of_le_length within]
      refine Report.Shortened.andThen _ fun next => ?_
      exact ih (List.prefix_append _ _) _ next (forgetful.feed _)

/-- **The events of a document that is cut short** in a character, a tag or anywhere else. -/
theorem shortened_documentReport {charset : Charset}
    (narrow : charset = .utf8 ∨ charset.SingleByte) (front rest : Source)
    {part block : List UInt8} (cut : part <+: block) :
    (documentReport charset (front ++ [.data part])).Shortened
      (documentReport charset (front ++ .data block :: rest)) := by
  have split (more : Source) :
      Source.inBlocks (front ++ more) = front.inBlocks ++ more.inBlocks := List.flatMap_append
  rw [documentReport, documentReport, split, split]
  refine shortened_reportOf_append ?_ front.inBlocks _ _ (Decoder.forgetful_new narrow)
  intro decoder reader forgetful
  have short : Source.inBlocks [.data part] = Source.blocksOf (.data part) := List.append_nil _
  have long : Source.inBlocks (.data block :: rest) = Source.blocksOf (.data block) ++ rest.inBlocks :=
    rfl
  rw [short, long]
  cases part with
  | nil => exact Report.shortened_of_texts (reader.texts_reportOfEnd forgetful) _
  | cons b part =>
    obtain ⟨tail, rfl⟩ := cut
    exact shortened_reportOf_pieces (List.prefix_append _ _) rest.inBlocks _ decoder reader forgetful

end Markup

end

/-! ### Lines -/

namespace Recovery

variable {recovery : Recovery}

theorem advance_text {event : Event} (text : event.isText = true) (progress : Progress) :
    ∃ next, recovery.advance progress event = .ok (none, next) := by
  cases event with
  | text raw => exact ⟨_, rfl⟩
  | _ => cases text

theorem linesOf_texts {texts : List Event} (all : ∀ event ∈ texts, event.isText = true)
    (progress : Progress) : recovery.linesOf progress texts = [] := by
  induction texts generalizing progress with
  | nil => rfl
  | cons event texts ih =>
    obtain ⟨text, others⟩ := List.forall_mem_cons.mp all
    obtain ⟨next, advanced⟩ := advance_text text progress
    rw [linesOf, advanced]
    exact ih others next

/-- Events that come later do not change the lines before. -/
theorem linesOf_begins (recovery : Recovery) (progress : Progress) (events more : List Event) :
    recovery.linesOf progress events <+: recovery.linesOf progress (events ++ more) := by
  induction events generalizing progress with
  | nil => exact List.nil_prefix
  | cons event events ih =>
    rw [List.cons_append, linesOf, linesOf]
    cases recovery.advance progress event with
    | error fault => exact List.prefix_rfl
    | ok step => exact (List.prefix_append_right_inj _).mpr (ih step.2)

theorem linesOf_append_texts {texts : List Event} (all : ∀ event ∈ texts, event.isText = true)
    (progress : Progress) (events : List Event) :
    recovery.linesOf progress (events ++ texts) = recovery.linesOf progress events := by
  induction events generalizing progress with
  | nil => exact linesOf_texts all progress
  | cons event events ih =>
    rw [List.cons_append, linesOf, linesOf]
    cases recovery.advance progress event with
    | error fault => rfl
    | ok step => exact congrArg _ (ih step.2)

section

variable [MultibyteCodecs]

theorem sink_texts {texts : List Event} (all : ∀ event ∈ texts, event.isText = true)
    (state : RecoveryState) : (recovery.handleAll state texts).2.sink = state.sink := by
  induction texts generalizing state with
  | nil => rfl
  | cons event texts ih =>
    obtain ⟨text, others⟩ := List.forall_mem_cons.mp all
    obtain ⟨next, advanced⟩ := advance_text text state.progress
    rw [handleAll, handle_eq, advanced]
    exact ih others (state.moved next)

/-- Nothing but the handling of the events touches the sink. -/
theorem sink_run {charset : Charset} (output : recovery.style.outputCharset? = .ok charset)
    (document : Source) (sink : Sink) :
    (recovery.run document sink).sink =
      (recovery.handleAll (start charset sink) (documentReport charset document).1).2.sink := by
  obtain ⟨made, same⟩ := run_eq output document sink
  rw [same, settle]
  rcases recovery.handleAll (start charset sink) (documentReport charset document).1 with
    ⟨_ | failure, after⟩
  · cases (documentReport charset document).2 with
    | error failure => rfl
    | ok _ =>
      dsimp only
      rw [flushed]
      cases after.sink.flushFailure with
      | none => rfl
      | some failure => rfl
  · rfl

/-- **What a run on a document writes when the document is cut short.** -/
structure WritesBeginning (recovery : Recovery) (short long : Source)
    (lines others : List (List Char)) (sink : Sink) : Prop where
  accepted : (recovery.run short sink).sink.accepted <+: (recovery.run long sink).sink.accepted
  beginning : (∀ reason, (recovery.run short sink).result ≠ .error (.io reason)) →
    (recovery.run short sink).sink.accepted = sink.accepted ++ lines.flatMap recovery.lineBytes
  whole : (∀ reason, (recovery.run long sink).result ≠ .error (.io reason)) →
    (recovery.run long sink).sink.accepted =
      sink.accepted ++ (lines ++ others).flatMap recovery.lineBytes
  /-- A sink that takes everything does not fail. -/
  unlimited : sink.Open → ∀ reason, (recovery.run short sink).result ≠ .error (.io reason)
    ∧ (recovery.run long sink).result ≠ .error (.io reason)

/-- **A document that is cut short never yields a wrong line.**  Wherever the cut is, and whether
    either run succeeds or fails, what is written for the document so far is the beginning of what
    is written for all of it, and consists of whole lines unless the sink fails. -/
theorem recovers_shortened {charset : Charset}
    (output : recovery.style.outputCharset? = .ok charset)
    (narrow : charset = .utf8 ∨ charset.SingleByte) (front rest : Source)
    {part block : List UInt8} (cut : part <+: block) :
    ∃ lines others, ∀ sink,
      recovery.WritesBeginning (front ++ [.data part]) (front ++ .data block :: rest) lines others
        sink := by
  obtain ⟨common, texts, split, begins, all⟩ := shortened_documentReport narrow front rest cut
  obtain ⟨more, whole⟩ := begins
  obtain ⟨others, later⟩ := recovery.linesOf_begins {} common more
  refine ⟨recovery.linesOf {} common, others, fun sink => ?_⟩
  constructor
  · rw [sink_run output, sink_run output, split, ← whole, handleAll_append, handleAll_append]
    have halts := recovery.handleAll_halts (start charset sink) common
    rcases recovery.handleAll (start charset sink) common with ⟨_ | failure, after⟩
    · dsimp only
      rw [sink_texts all]
      exact (recovery.handleAll_halts after more).accepted_begins
    · exact List.prefix_rfl
  · intro taken
    have accepted := (run_halted output (front ++ [.data part]) sink).accepted_of_not_refused taken
    rwa [split, linesOf_append_texts all] at accepted
  · intro taken
    have accepted :=
      (run_halted output (front ++ .data block :: rest) sink).accepted_of_not_refused taken
    rwa [← whole, ← later] at accepted
  · intro free reason
    exact ⟨not_refused_of_open output _ free reason, not_refused_of_open output _ free reason⟩

end

/-- A cut in the character of the second line: the first one is written, and the first half of the
    character is not. -/
theorem recovers_shortened_in_character :
    let block := Charset.utf8.encode "<a><Line>x</Line><Line>é</Line></a>".toList
    let part := block.take 24
    (∃ lines others, ∀ sink,
        plainRecovery.WritesBeginning [.data part] [.data block] lines others sink)
      ∧ (plainRecovery.run [.data part] {}).result = .ok 1
      ∧ (plainRecovery.run [.data part] {}).sink.accepted = Charset.utf8.encode "x\n".toList
      ∧ (plainRecovery.run [.data block] {}).sink.accepted =
        Charset.utf8.encode "x\né\n".toList := by
  intro block part
  refine ⟨?_, ?_⟩
  · exact @recovers_shortened plainRecovery _ .utf8 rfl (.inl rfl) [] [] part block
      (List.take_prefix 24 block)
  · decide +kernel

end Recovery

end FlatFile
