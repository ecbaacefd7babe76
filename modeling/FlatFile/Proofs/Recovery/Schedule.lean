/-
  FlatFile/Proofs/Recovery/Schedule.lean
  ======================================
  **What is recovered does not depend on how the document is read.**

  A recovery reads its document in blocks, and each block in windows; after each window its
  reader pauses.  Read without any pause, the document is one text, and the report of that
  text knows nothing of reads (`Reader.reportOfText`).  The two readings go side by side,
  character by character (`Report.Alike`), as long as every character is clear, so two
  schedules of the same bytes have the report of one text in common (`reportOf_eq`) and
  give the same lines (`Recovery.same_for_all_schedules`).

  A text that is not clear has a comment in its document type declaration in which a dash
  and something else stand in front of `->`.  There the blocks do make a difference
  (`Recovery.schedules_differ`).
-/
import FlatFile.Charset.AsciiOnly
import FlatFile.Proofs.Markup.Pauses
import FlatFile.Proofs.Recovery.CutShort
import FlatFile.Proofs.Recovery.Transcoder

namespace FlatFile

namespace Markup

/-! ### Reports side by side -/

/-- **Two reports with the same events** that fail alike, or go on from related states. -/
inductive Report.Alike {α β : Type} (related : α → β → Prop) : Report α → Report β → Prop where
  | failed (events : List Event) (failure : Failure) :
      Alike related (events, .error failure) (events, .error failure)
  | going (events : List Event) {state : α} {other : β} (on : related state other) :
      Alike related (events, .ok state) (events, .ok other)

namespace Report

variable {α β γ δ : Type}

theorem Alike.andThen {related : α → β → Prop} {related' : γ → δ → Prop} {report : Report α}
    {other : Report β} {next : α → Report γ} {next' : β → Report δ}
    (first : Alike related report other)
    (second : ∀ state state', related state state' → Alike related' (next state) (next' state')) :
    Alike related' (report.andThen next) (other.andThen next') := by
  cases first with
  | failed events failure => exact .failed events failure
  | @going events state state' on =>
    rw [andThen_ok, andThen_ok]
    have more := second state state' on
    generalize next state = here at more ⊢
    generalize next' state' = there at more ⊢
    cases more with
    | failed later failure => exact .failed _ failure
    | going later on' => exact .going _ on'

theorem Alike.eq {report other : Report Unit} (alike : Alike Eq report other) : report = other := by
  cases alike with
  | failed events failure => rfl
  | going events on => rw [on]

end Report

variable [MultibyteCodecs]

namespace Reader

/-! ### Characters and windows -/

/-- A reader with pauses and one without, where the rest of the text is clear. -/
def Abreast (counts : Bool → Dashes → Dashes → Prop) (text : List Char) (paused whole : Reader) :
    Prop :=
  ∃ parted, Alike (counts parted) paused whole ∧ whole.clearFrom parted text = true

section

omit [MultibyteCodecs]

theorem Abreast.pause {text : List Char} {paused whole : Reader}
    (abreast : Abreast Dashes.Settled text paused whole) :
    Abreast Dashes.Counted text paused.pause whole := by
  obtain ⟨parted, alike, clear⟩ := abreast
  exact ⟨parted, alike.pause, clear⟩

theorem Abreast.counted {text : List Char} {paused whole : Reader}
    (abreast : Abreast Dashes.Settled text paused whole) :
    Abreast Dashes.Counted text paused whole := by
  obtain ⟨parted, alike, clear⟩ := abreast
  refine ⟨parted, ?_, clear⟩
  cases alike with
  | same outside => exact .same outside
  | comment settled seen openElements => exact .comment settled.toCounted seen openElements

theorem alike_reportOfChar {c : Char} {rest : List Char} {paused whole : Reader}
    (abreast : Abreast Dashes.Counted (c :: rest) paused whole) :
    Report.Alike (Abreast Dashes.Settled rest) (paused.reportOfChar c) (whole.reportOfChar c) := by
  obtain ⟨parted, alike, clear⟩ := abreast
  unfold reportOfChar
  rcases alike.step (clear_of_clearFrom clear) with
    ⟨fault, step, step'⟩ | ⟨event, next, next', step, step', alike'⟩
  · rw [step, step']
    exact .failed _ _
  · rw [step, step']
    exact .going _ ⟨_, alike', clearFrom_of_step clear step'⟩

/-- The characters of a window, of which there is one at least: so a pause may come after them. -/
theorem alike_reportOf {chars rest : List Char} (some_chars : chars ≠ []) {paused whole : Reader}
    (abreast : Abreast Dashes.Counted (chars ++ rest) paused whole) :
    Report.Alike (Abreast Dashes.Settled rest) (paused.reportOf chars) (whole.reportOf chars) := by
  induction chars generalizing paused whole with
  | nil => exact absurd rfl some_chars
  | cons c chars ih =>
    refine (alike_reportOfChar abreast).andThen ?_
    intro next next' abreast'
    by_cases last : chars = []
    · subst last
      exact .going [] abreast'
    · exact ih last abreast'.counted

theorem alike_reportOfWindows {windows : List (List Char)} {rest : List Char}
    (some_chars : ∀ window ∈ windows, window ≠ []) {paused whole : Reader}
    (abreast : Abreast Dashes.Counted (windows.flatten ++ rest) paused whole) :
    Report.Alike (Abreast Dashes.Counted rest) (paused.reportOfWindows windows)
      (whole.reportOf windows.flatten) := by
  induction windows generalizing paused whole with
  | nil => exact .going [] abreast
  | cons window windows ih =>
    obtain ⟨here, others⟩ := List.forall_mem_cons.mp some_chars
    rw [List.flatten_cons, List.append_assoc] at abreast
    rw [List.flatten_cons, reportOf_append]
    refine (alike_reportOf here abreast).andThen ?_
    intro next next' abreast'
    exact ih others abreast'.pause

theorem windows_nonempty {room : Nat} {chars window : List Char}
    (inside : window ∈ Recovery.windows room chars) : window ≠ [] := by
  induction chars generalizing room window with
  | nil => cases inside
  | cons c rest ih =>
    rw [Recovery.windows] at inside
    split at inside
    · cases others : Recovery.windows (room - c.utf8Size) rest with
      | nil =>
        rw [others] at inside
        rw [List.mem_singleton.mp inside]
        exact List.cons_ne_nil _ _
      | cons first more =>
        rw [others] at inside
        rcases List.mem_cons.mp inside with rfl | later
        · exact List.cons_ne_nil _ _
        · exact ih (others ▸ List.mem_cons_of_mem _ later)
    · rcases List.mem_cons.mp inside with rfl | later
      · exact List.cons_ne_nil _ _
      · exact ih later

end

/-! ### Whole documents -/

/-- The events at the end of a text. -/
def reportOfFinish (reader : Reader) : Report Unit :=
  match reader.finish with
  | .error fault => ([], .error (.document (.markup fault)))
  | .ok event => (event.toList, .ok ())

/-- **The events of a text** that is read without a pause. -/
def reportOfText (reader : Reader) (text : List Char) : Report Unit :=
  (reader.reportOf text).andThen reportOfFinish

omit [MultibyteCodecs] in
theorem alike_reportOfFinish {counts : Dashes → Dashes → Prop} {paused whole : Reader}
    (alike : Alike counts paused whole) :
    Report.Alike Eq paused.reportOfFinish whole.reportOfFinish := by
  cases alike with
  | same outside =>
    unfold reportOfFinish
    cases paused.finish with
    | error fault => exact .failed _ _
    | ok event => exact .going _ rfl
  | comment related seen openElements => exact .failed _ _

theorem alike_reportOfEnd {decoder : Decoder} {paused whole : Reader}
    (abreast : Abreast Dashes.Counted decoder.finish paused whole) :
    Report.Alike Eq (paused.reportOfEnd decoder) (whole.reportOfText decoder.finish) := by
  change Report.Alike Eq ((paused.reportOf decoder.finish).andThen reportOfFinish) _
  by_cases nothing : decoder.finish = []
  · obtain ⟨parted, alike, -⟩ := abreast
    rw [nothing, reportOfText]
    exact (Report.Alike.going [] alike).andThen fun _ _ => alike_reportOfFinish
  · rw [← List.append_nil decoder.finish] at abreast
    refine (alike_reportOf nothing abreast).andThen ?_
    rintro next next' ⟨parted, alike, -⟩
    exact alike_reportOfFinish alike

end Reader

/-- **The reads leave no trace in a clear text**: its events are those of the text as a whole. -/
theorem alike_reportOf_source {source : Source} (served : source.failure? = none)
    {decoder : Decoder} {paused whole : Reader}
    (abreast : Reader.Abreast Dashes.Counted (decoder.rest source.bytes) paused whole) :
    Report.Alike Eq (reportOf decoder paused source)
      (whole.reportOfText (decoder.rest source.bytes)) := by
  -- A block takes its characters from the front of the text to come.
  induction source generalizing decoder paused whole with
  | nil =>
    rw [Source.bytes, Decoder.rest_nil] at abreast ⊢
    exact Reader.alike_reportOfEnd abreast
  | cons reading rest ih =>
    cases reading with
    | failure failure =>
      rw [Source.failure?] at served
      by_cases retried : failure.kind = .interrupted
      · rw [if_pos retried] at served
        simp only [reportOf, Source.bytes, if_pos retried] at abreast ⊢
        exact ih served abreast
      · rw [if_neg retried] at served
        cases served
    | data block =>
      cases block with
      | nil =>
        rw [Source.bytes, Decoder.rest_nil] at abreast ⊢
        exact Reader.alike_reportOfEnd abreast
      | cons b bytes =>
        rw [Source.bytes, Decoder.rest_append] at abreast ⊢
        rw [reportOf, Reader.reportOfText, Reader.reportOf_append, Report.andThen_assoc]
        have split := Recovery.windows_flatten blockSize (decoder.feed (b :: bytes)).1
        rw [← split] at abreast
        have first := Reader.alike_reportOfWindows (fun _ => Reader.windows_nonempty) abreast
        rw [split] at first
        refine first.andThen ?_
        intro next next' abreast'
        exact ih served abreast'

theorem documentReport_eq {charset : Charset} {document : Source}
    (served : document.failure? = none)
    (clear : Reader.new.clearFrom false (charset.decode document.bytes) = true) :
    documentReport charset document = Reader.new.reportOfText (charset.decode document.bytes) := by
  have content := Source.content_inBlocks document
  have abreast : Reader.Abreast Dashes.Counted ((Decoder.new charset).rest document.inBlocks.bytes)
      .new .new := by
    rw [content.1, Decoder.rest_new]
    exact ⟨false, .same rfl, clear⟩
  have alike := alike_reportOf_source (content.2.trans served) abreast
  rw [content.1, Decoder.rest_new] at alike
  exact alike.eq

end Markup

open Markup

namespace Recovery

variable {recovery : Recovery}

section

variable [MultibyteCodecs]

/-- A run is told by the events of its document. -/
theorem run_congr {charset : Charset} (output : recovery.style.outputCharset? = .ok charset)
    {one other : Source} (same : documentReport charset one = documentReport charset other)
    (sink : Sink) :
    (recovery.run one sink).result = (recovery.run other sink).result
      ∧ (recovery.run one sink).sink = (recovery.run other sink).sink := by
  obtain ⟨reads, here⟩ := run_eq output one sink
  obtain ⟨reads', there⟩ := run_eq output other sink
  rw [here, there, same]
  rcases flushed (recovery.settle (start charset sink) (documentReport charset other)) with
    ⟨_ | failure, after⟩
  · exact ⟨rfl, rfl⟩
  · exact ⟨rfl, rfl⟩

/-- **One document, read in two ways.**  Whatever the sizes of the reads and however many of them
    are interrupted: a clear document gives the same result and the same bytes, and the text of any
    document, clear or not, is served as it is decoded at once, to requests of any sizes. -/
theorem same_for_all_schedules {one other : Source} (served : one.failure? = none)
    (served' : other.failure? = none) (same : one.bytes = other.bytes) :
    (∀ sink, (∀ charset, recovery.style.outputCharset? = .ok charset →
          Reader.new.clearFrom false (charset.decode one.bytes) = true) →
        (recovery.run one sink).result = (recovery.run other sink).result
          ∧ (recovery.run one sink).sink = (recovery.run other sink).sink)
      ∧ ∀ charset rooms, ∃ answers,
        ((Transcoder.new charset one).readAll rooms).1 = answers.map .ok
          ∧ Transcoder.Serves (Charset.utf8.encode (charset.decode one.bytes)) rooms answers := by
  constructor
  · intro sink clear
    cases output : recovery.style.outputCharset? with
    | error failure =>
      simp only [run, output]
      exact ⟨trivial, trivial⟩
    | ok charset =>
      have clear' := clear charset output
      apply run_congr output
      rw [documentReport_eq served clear', documentReport_eq served' (same ▸ clear'), same]
  · intro charset rooms
    exact Transcoder.serves_new served charset rooms

end

def dashedBytes : List UInt8 :=
  Charset.utf8.encode "<!DOCTYPE a [<!-- - x--> ]><a><Line>é</Line></a>".toList

/-- The dashes of the comment and the bytes of the letter come in different reads, and some reads
    are interrupted. -/
def dashedReads : Source :=
  [.failure ⟨.interrupted, none⟩, .data (dashedBytes.take 19), .data ((dashedBytes.drop 19).take 3),
    .failure ⟨.interrupted, none⟩, .data ((dashedBytes.drop 22).take 15),
    .data (dashedBytes.drop 37)]

theorem same_for_all_schedules_dashed :
    Source.failure? [.data dashedBytes] = none ∧ dashedReads.failure? = none
      ∧ Source.bytes [.data dashedBytes] = dashedReads.bytes
      ∧ (plainRecovery.run dashedReads {}).result = .ok 1
      ∧ (plainRecovery.run dashedReads {}).sink = (plainRecovery.run [.data dashedBytes] {}).sink
      ∧ ∃ answers : List (List UInt8), ((Transcoder.new .utf8 [.data dashedBytes]).readAll
          (List.replicate dashedBytes.length 1)).1 = answers.map .ok
        ∧ answers.flatten = dashedBytes := by
  have served : Source.failure? [.data dashedBytes] = none := by decide +kernel
  have served' : dashedReads.failure? = none := by decide +kernel
  have same : Source.bytes [.data dashedBytes] = dashedReads.bytes := by decide +kernel
  have decoded : Charset.utf8.encode (Charset.utf8.decode (Source.bytes [.data dashedBytes])) =
      dashedBytes := by decide +kernel
  obtain ⟨alike, serves⟩ := @same_for_all_schedules plainRecovery _ _ _ served served' same
  obtain ⟨result, sink⟩ := alike {} (by
    rintro charset ⟨⟩
    decide +kernel)
  obtain ⟨answers, read, single⟩ := serves .utf8 (List.replicate dashedBytes.length 1)
  rw [decoded] at single
  refine ⟨served, served', same, ?_, sink.symm, answers, read, ?_⟩
  · rw [← result]
    decide +kernel
  · apply single.whole
    decide +kernel

/-- **Blocks that end a comment early.**  A dash at the end of one block and another one at the end
    of the next are taken for the two dashes of the end, though a letter is between them. -/
theorem schedules_differ :
    let blocks := ["<!DOCTYPE a [<!-- -", "x-", "> ]><Line>1</Line> --> ]><Line>2</Line>"].map
      fun text => Charset.utf8.encode text.toList
    let whole : Source := [.data blocks.flatten]
    let parts : Source := blocks.map .data
    whole.failure? = none ∧ parts.failure? = none ∧ whole.bytes = parts.bytes
      ∧ (plainRecovery.run whole {}).result = .ok 1
      ∧ (plainRecovery.run whole {}).sink.accepted = Charset.utf8.encode "2\n".toList
      ∧ (plainRecovery.run parts {}).result = .ok 2
      ∧ (plainRecovery.run parts {}).sink.accepted = Charset.utf8.encode "1\n2\n".toList := by
  decide +kernel

end Recovery

end FlatFile
