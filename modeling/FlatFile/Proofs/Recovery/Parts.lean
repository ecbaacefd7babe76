/-
  FlatFile/Proofs/Recovery/Parts.lean
  ===================================
  **A run leaves whole lines behind, each told by its own part of the document.**

  The parts of a document that give lines are its comments outside line elements and its
  line elements (`parts`); the line of a part is what the part gives alone
  (`Recovery.lineOf`).  What a run has written when it ends are the lines of the first
  parts, and of all parts if it succeeds (`leaves_run`).

  A line element is told by its name and no depth is kept: it ends with the first end tag of
  its name that closes no column.  Where no line element starts inside another one, this is
  its own end tag, and the parts are those that the nesting of the elements gives
  (`parts_eq_outermost`).
-/
import FlatFile.Charset.AsciiOnly
import FlatFile.Conversion
import FlatFile.Proofs.Markup.Steps
import FlatFile.Proofs.Recovery.Halting
import Mathlib.Data.List.Forall2

namespace FlatFile

open Markup

/-! ### The events of a document are nested -/

namespace Markup

/-- The events of a report are nested, and the state after it knows which elements are open. -/
def Report.Nests {α : Type} (report : Report α) (elements : List (List Char))
    (knows : α → List (List Char) → Prop) : Prop :=
  ∃ final, Nested elements report.1 final ∧ ∀ state, report.2 = .ok state → knows state final

theorem Report.Nests.andThen {α β : Type} {report : Report α} {next : α → Report β}
    {elements : List (List Char)} {knows : α → List (List Char) → Prop}
    {knows' : β → List (List Char) → Prop} (first : report.Nests elements knows)
    (second : ∀ state middle, knows state middle → (next state).Nests middle knows') :
    (report.andThen next).Nests elements knows' := by
  obtain ⟨middle, nested, known⟩ := first
  rcases report with ⟨events, failure | state⟩
  · exact ⟨middle, nested, nofun⟩
  · obtain ⟨final, more, known'⟩ := second state middle (known state rfl)
    exact ⟨final, nested.append more, known'⟩

variable [MultibyteCodecs]

namespace Reader

/-- The elements are those that the reader has open. -/
def Has (reader : Reader) (elements : List (List Char)) : Prop := reader.openElements = elements

omit [MultibyteCodecs] in
theorem nests_reportOf (reader : Reader) (chars : List Char) :
    (reader.reportOf chars).Nests reader.openElements Has := by
  induction chars generalizing reader with
  | nil =>
    refine ⟨_, .nil _, ?_⟩
    rintro _ ⟨⟩
    rfl
  | cons c rest ih =>
    rw [reportOf]
    have first : (reader.reportOfChar c).Nests reader.openElements Has := by
      rw [reportOfChar]
      cases step : reader.step c with
      | error fault =>
        refine ⟨_, .nil _, ?_⟩
        rintro _ ⟨⟩
      | ok taken =>
        refine ⟨_, nested_step step, ?_⟩
        rintro _ ⟨⟩
        rfl
    refine first.andThen ?_
    rintro next _ rfl
    exact ih next

omit [MultibyteCodecs] in
theorem nests_reportOfWindows (reader : Reader) (windows : List (List Char)) :
    (reader.reportOfWindows windows).Nests reader.openElements Has := by
  induction windows generalizing reader with
  | nil =>
    refine ⟨_, .nil _, ?_⟩
    rintro _ ⟨⟩
    rfl
  | cons window rest ih =>
    rw [reportOfWindows]
    refine (nests_reportOf reader window).andThen ?_
    rintro next _ rfl
    have paused := ih next.pause
    rwa [openElements_pause] at paused

theorem nests_reportOfEnd (reader : Reader) (decoder : Decoder) :
    (reader.reportOfEnd decoder).Nests reader.openElements fun _ _ => True := by
  rw [reportOfEnd]
  refine (nests_reportOf reader decoder.finish).andThen ?_
  rintro last _ rfl
  cases finished : last.finish with
  | error fault => exact ⟨_, .nil _, fun _ _ => trivial⟩
  | ok event => exact ⟨_, nested_finish finished, fun _ _ => trivial⟩

end Reader

theorem nests_reportOf (decoder : Decoder) (reader : Reader) (document : Source) :
    (reportOf decoder reader document).Nests reader.openElements fun _ _ => True := by
  induction document generalizing decoder reader with
  | nil => exact reader.nests_reportOfEnd decoder
  | cons reading rest ih =>
    cases reading with
    | failure failure =>
      rw [reportOf]
      split
      · exact ih decoder reader
      · refine ⟨_, .nil _, ?_⟩
        rintro _ ⟨⟩
    | data block =>
      cases block with
      | nil => exact reader.nests_reportOfEnd decoder
      | cons b bytes =>
        rw [reportOf]
        refine (reader.nests_reportOfWindows _).andThen ?_
        rintro next _ rfl
        exact ih _ next

/-- **The events of every document are nested**, as far as it can be read. -/
theorem nested_documentReport (charset : Charset) (document : Source) :
    ∃ final, Nested [] (documentReport charset document).1 final := by
  obtain ⟨final, nested, -⟩ := nests_reportOf (.new charset) .new document.inBlocks
  exact ⟨final, nested⟩

end Markup

/-! ### Parts -/

namespace Recovery

variable {recovery : Recovery}

/-- What an event outside line elements is: a part by itself, the start of one, or neither. -/
inductive Opening where
  | whole
  | start
  | neither
deriving DecidableEq

def openingOf (isLine : List Char → Bool) : Event → Opening
  | .comment _ => .whole
  | .empty tag => if isLine tag.name then .whole else .neither
  | .start tag => if isLine tag.name then .start else .neither
  | _ => .neither

/-- **The parts of a document that give lines**: the comments outside line elements, and the line
    elements.  How far a line element has come is kept in a state: `next` is the state after one
    more event, none where this event is the last one of the element.  The events of the element at
    hand are held last one first. -/
def partsBy (isLine : List Char → Bool) {σ : Type} (first : σ) (next : σ → Event → Option σ) :
    Option (σ × List Event) → List Event → List (List Event)
  | _, [] => []
  | none, event :: events =>
    match openingOf isLine event with
    | .whole => [event] :: partsBy isLine first next none events
    | .start => partsBy isLine first next (some (first, [event])) events
    | .neither => partsBy isLine first next none events
  | some (state, held), event :: events =>
    match next state event with
    | some state => partsBy isLine first next (some (state, event :: held)) events
    | none => (event :: held).reverse :: partsBy isLine first next none events

/-- Whether a column is open in a line element, after one more event. -/
def columnAfter (recovery : Recovery) (column : Bool) : Event → Option Bool
  | .start _ => some true
  | .finish name => if !column && recovery.isLineName name then none else some false
  | _ => some column

/-- How many elements are open in a line element, after one more event. -/
def depthAfter (depth : Nat) : Event → Option Nat
  | .start _ => some (depth + 1)
  | .finish _ => if depth = 0 then none else some (depth - 1)
  | _ => some depth

/-- The parts of a document where a line element ends with the first end tag of its name that
    closes no column. -/
def parts (recovery : Recovery) (events : List Event) : List (List Event) :=
  partsBy recovery.isLineName false recovery.columnAfter none events

/-- **The parts of a document by the nesting of its elements**: a line element ends with its own
    end tag. -/
def outermost (recovery : Recovery) (events : List Event) : List (List Event) :=
  partsBy recovery.isLineName 0 depthAfter none events

/-- The names of the elements that are open after one more event. -/
def nesting (elements : List (List Char)) : Event → List (List Char)
  | .start tag => tag.name :: elements
  | .finish _ => elements.tail
  | _ => elements

/-- **No line element starts inside another one**, given the elements that are open. -/
def LinesApart (recovery : Recovery) (elements : List (List Char)) (events : List Event) : Prop :=
  ∀ before tag after, events = before ++ .start tag :: after →
    recovery.isLineName tag.name = true →
    ∀ name ∈ before.foldl nesting elements, recovery.isLineName name = false

theorem LinesApart.tail {elements : List (List Char)} {event : Event} {events : List Event}
    (apart : recovery.LinesApart elements (event :: events)) :
    recovery.LinesApart (nesting elements event) events := by
  intro before tag after split isLine
  exact apart (event :: before) tag after (congrArg (event :: ·) split) isLine

/-- The two ways to tell the parts stand at the same place: outside line elements, or in one that
    is the outermost of the elements `inner` and `name`. -/
inductive Together (recovery : Recovery) (elements : List (List Char)) :
    Option (Bool × List Event) → Option (Nat × List Event) → Prop where
  | outside : Together recovery elements none none
  | inside {column : Bool} {held : List Event} {inner outer : List (List Char)} {name : List Char}
      (isLine : recovery.isLineName name = true) (opened : elements = inner ++ name :: outer)
      (others : ∀ name ∈ inner, recovery.isLineName name = false)
      (closed : column = true → inner ≠ []) :
      Together recovery elements (some (column, held)) (some (inner.length, held))

/-- The two ways give the same parts of some events, wherever they stand together before them. -/
def SameParts (recovery : Recovery) (elements : List (List Char)) (events : List Event) : Prop :=
  ∀ here there, recovery.Together elements here there →
    partsBy recovery.isLineName false recovery.columnAfter here events =
      partsBy recovery.isLineName 0 depthAfter there events

section Events

variable {elements : List (List Char)} {events : List Event}

theorem SameParts.start {tag : Tag} (apart : recovery.LinesApart elements (.start tag :: events))
    (more : recovery.SameParts (tag.name :: elements) events) :
    recovery.SameParts elements (.start tag :: events) := by
  intro here there together
  cases together with
  | outside =>
    rw [partsBy, partsBy, openingOf]
    cases isLine : recovery.isLineName tag.name with
    | false => exact more _ _ .outside
    | true =>
      exact more _ _ (@Together.inside recovery _ false _ [] elements tag.name isLine rfl nofun nofun)
  | @inside column held inner outer line isLine opened others closed =>
    have plain : recovery.isLineName tag.name = false := by
      rw [Bool.eq_false_iff]
      intro again
      have none_open := apart [] tag events rfl again line
      rw [List.foldl_nil, opened] at none_open
      rw [none_open (List.mem_append_right _ List.mem_cons_self)] at isLine
      cases isLine
    apply more
    refine @Together.inside recovery _ true _ (tag.name :: inner) outer line isLine ?_ ?_ ?_
    · exact congrArg (tag.name :: ·) opened
    · exact List.forall_mem_cons.mpr ⟨plain, others⟩
    · intro _
      exact List.cons_ne_nil _ _

theorem SameParts.finish {name : List Char} (more : recovery.SameParts elements events) :
    recovery.SameParts (name :: elements) (.finish name :: events) := by
  intro here there together
  cases together with
  | outside => exact more _ _ .outside
  | @inside column held inner outer line isLine opened others closed =>
    cases inner with
    | nil =>
      -- This is the end tag of the line element itself.
      cases opened
      have settled : column = false := by
        rw [Bool.eq_false_iff]
        intro is_open
        exact closed is_open rfl
      have ends : recovery.columnAfter column (.finish name) = none := by
        rw [columnAfter, settled, isLine]
        rfl
      rw [partsBy, partsBy, ends]
      exact congrArg _ (more _ _ .outside)
    | cons innermost inner =>
      cases opened
      obtain ⟨plain, others⟩ := List.forall_mem_cons.mp others
      have goesOn : recovery.columnAfter column (.finish name) = some false := by
        rw [columnAfter, plain, Bool.and_false]
        rfl
      rw [partsBy, goesOn]
      exact more _ _ (.inside isLine rfl others nofun)

theorem openingOf_ne_start {event : Event} (level : event.isTag = false)
    (isLine : List Char → Bool) : openingOf isLine event ≠ .start := by
  cases event with
  | start => cases level
  | empty tag =>
    rw [openingOf]
    split
    · exact nofun
    · exact nofun
  | _ => exact nofun

theorem SameParts.level {event : Event} (level : event.isTag = false)
    (more : recovery.SameParts elements events) :
    recovery.SameParts elements (event :: events) := by
  intro here there together
  cases together with
  | outside =>
    rw [partsBy, partsBy]
    cases opened : openingOf recovery.isLineName event with
    | whole => exact congrArg _ (more _ _ .outside)
    | start => exact absurd opened (openingOf_ne_start level _)
    | neither => exact more _ _ .outside
  | @inside column held inner outer line isLine opened others closed =>
    have same : recovery.columnAfter column event = some column
        ∧ depthAfter inner.length event = some inner.length := by
      cases event with
      | start => cases level
      | finish => cases level
      | _ => exact ⟨rfl, rfl⟩
    rw [partsBy, partsBy, same.1, same.2]
    exact more _ _ (.inside isLine opened others closed)

theorem nesting_of_level {event : Event} (level : event.isTag = false) :
    nesting elements event = elements := by
  cases event with
  | start => cases level
  | finish => cases level
  | _ => rfl

theorem sameParts_of_nested {final : List (List Char)} (nested : Nested elements events final)
    (apart : recovery.LinesApart elements events) : recovery.SameParts elements events := by
  induction nested with
  | nil =>
    intro here there together
    cases together with
    | outside => rfl
    | inside => rfl
  | start more ih => exact .start apart (ih apart.tail)
  | finish more ih => exact .finish (ih apart.tail)
  | level level more ih =>
    have apart' := apart.tail
    rw [nesting_of_level level] at apart'
    exact .level level (ih apart')

end Events

/-- **Where no line element starts inside another one**, the parts are those that the nesting of
    the elements gives. -/
theorem parts_eq_outermost {events : List Event} {final : List (List Char)}
    (nested : Nested [] events final) (apart : recovery.LinesApart [] events) :
    recovery.parts events = recovery.outermost events :=
  sameParts_of_nested nested apart none none .outside

/-! ### The line of a part -/

/-- **What a part of a document gives alone**: its line, or the fault of a reference in it. -/
def lineOf (recovery : Recovery) (progress : Progress) :
    List Event → Except ReferenceFault (Option (List Char))
  | [] => .ok none
  | event :: events =>
    match recovery.advance progress event with
    | .error fault => .error fault
    | .ok (some line, _) => .ok (some line)
    | .ok (none, next) => recovery.lineOf next events

/-- The lines come from the parts, in order and up to the first fault. -/
inductive Accounts (recovery : Recovery) :
    List (List Event) → List (List Char) → Option ReferenceFault → Prop where
  | nil : Accounts recovery [] [] none
  | line {part : List Event} {line : List Char} {parts : List (List Event)}
      {lines : List (List Char)} {fault? : Option ReferenceFault}
      (gives : recovery.lineOf {} part = .ok (some line)) (more : Accounts recovery parts lines fault?) :
      Accounts recovery (part :: parts) (line :: lines) fault?
  | fault {part : List Event} {fault : ReferenceFault} {parts : List (List Event)}
      (fails : recovery.lineOf {} part = .error fault) :
      Accounts recovery (part :: parts) [] (some fault)

/-- A recovery stands where the parts are told: outside line elements, or in one of which it has
    gathered the events held. -/
inductive Stands (recovery : Recovery) : Option (Bool × List Event) → Progress → Prop where
  | outside : Stands recovery none {}
  | inside {record : Record} {column : Option (Option UInt64 × Growing Char)} {held : List Event}
      (gathered : ∀ more, recovery.lineOf {} (held.reverse ++ more) =
        recovery.lineOf ⟨some record, column⟩ more) :
      Stands recovery (some (column.isSome, held)) ⟨some record, column⟩

/-- One more event that completes nothing. -/
theorem lineOf_snoc {progress next : Progress} {held : List Event} {event : Event}
    (gathered : ∀ more, recovery.lineOf {} (held.reverse ++ more) = recovery.lineOf progress more)
    (advanced : recovery.advance progress event = .ok (none, next)) (more : List Event) :
    recovery.lineOf {} ((event :: held).reverse ++ more) = recovery.lineOf next more := by
  rw [List.reverse_cons, List.append_assoc, gathered, List.singleton_append, lineOf, advanced]

/-- What an event outside line elements does, by what it is. -/
theorem advance_outside (recovery : Recovery) (event : Event) :
    match openingOf recovery.isLineName event with
    | .whole => (∃ line, recovery.advance {} event = .ok (some line, {}))
        ∨ ∃ fault, recovery.advance {} event = .error fault
    | .start => ∃ record, recovery.advance {} event = .ok (none, ⟨some record, none⟩)
    | .neither => recovery.advance {} event = .ok (none, {}) := by
  cases event with
  | comment content => exact .inl ⟨headerLine content, rfl⟩
  | start tag =>
    rw [openingOf]
    cases isLine : recovery.isLineName tag.name with
    | false => simp only [advance, isLine, if_neg Bool.false_ne_true]
    | true =>
      simp only [advance, isLine, if_true]
      exact ⟨_, rfl⟩
  | empty tag =>
    rw [openingOf]
    cases isLine : recovery.isLineName tag.name with
    | false => simp only [advance, isLine, if_neg Bool.false_ne_true]
    | true =>
      simp only [advance, isLine, if_true]
      cases recovery.line (recovery.opened tag) with
      | error fault => exact .inr ⟨fault, rfl⟩
      | ok line => exact .inl ⟨line, rfl⟩
  | text raw => rfl
  | reference name => rfl
  | cdata content => rfl
  | finish name => rfl
  | other => rfl

theorem addText_inside (record : Record) (column : Option (Option UInt64 × Growing Char))
    (raw : List Char) :
    ∃ record' column', column'.isSome = column.isSome
      ∧ (⟨some record, column⟩ : Progress).addText raw = ⟨some record', column'⟩ := by
  cases column with
  | none => exact ⟨record.addText raw, none, rfl, rfl⟩
  | some column => exact ⟨record, some (column.1, column.2.add raw), rfl, rfl⟩

/-- What an event in a line element does: the element goes on, or its line is complete. -/
theorem advance_inside (recovery : Recovery) (record : Record)
    (column : Option (Option UInt64 × Growing Char)) (event : Event) :
    match recovery.columnAfter column.isSome event with
    | some still => ∃ record' column', column'.isSome = still
        ∧ recovery.advance ⟨some record, column⟩ event = .ok (none, ⟨some record', column'⟩)
    | none => (∃ line, recovery.advance ⟨some record, column⟩ event = .ok (some line, {}))
        ∨ ∃ fault, recovery.advance ⟨some record, column⟩ event = .error fault := by
  have texts (raw : List Char) : ∃ record' column', column'.isSome = column.isSome
      ∧ (.ok (none, (⟨some record, column⟩ : Progress).addText raw) :
        Except ReferenceFault (Option (List Char) × Progress)) =
          .ok (none, ⟨some record', column'⟩) := by
    obtain ⟨record', column', same, added⟩ := addText_inside record column raw
    exact ⟨record', column', same, congrArg _ (congrArg _ added)⟩
  cases event with
  | comment content => exact ⟨record, column, rfl, rfl⟩
  | start tag => exact ⟨record, _, rfl, rfl⟩
  | empty tag => exact ⟨_, column, rfl, rfl⟩
  | text raw => exact texts raw
  | reference name => exact texts _
  | cdata content => exact texts _
  | other => exact ⟨record, column, rfl, rfl⟩
  | finish name =>
    cases column with
    | some column => exact ⟨_, none, rfl, rfl⟩
    | none =>
      rw [columnAfter]
      cases isLine : recovery.isLineName name with
      | false =>
        refine ⟨record, none, rfl, ?_⟩
        simp only [advance, isLine, if_neg Bool.false_ne_true]
      | true =>
        simp only [advance, isLine, if_true]
        cases recovery.line record with
        | error fault => exact .inr ⟨fault, rfl⟩
        | ok line => exact .inl ⟨line, rfl⟩

/-- **The lines of some events are those of their parts.** -/
theorem accounts_of_stands {here : Option (Bool × List Event)} {progress : Progress}
    (stands : recovery.Stands here progress) (events : List Event) :
    recovery.Accounts (partsBy recovery.isLineName false recovery.columnAfter here events)
      (recovery.linesOf progress events) (recovery.faultOf? progress events) := by
  induction events generalizing here progress with
  | nil =>
    cases stands with
    | outside => exact .nil
    | inside gathered => exact .nil
  | cons event events ih =>
    cases stands with
    | outside =>
      have advanced := recovery.advance_outside event
      rw [partsBy]
      cases opening : openingOf recovery.isLineName event with
      | neither =>
        rw [opening] at advanced
        rw [linesOf, faultOf?, advanced]
        exact ih .outside
      | start =>
        rw [opening] at advanced
        obtain ⟨record, advanced⟩ := advanced
        rw [linesOf, faultOf?, advanced]
        have gathered (more : List Event) : recovery.lineOf {} ([event].reverse ++ more) =
            recovery.lineOf ⟨some record, none⟩ more := by
          rw [List.reverse_singleton, List.singleton_append, lineOf, advanced]
        exact ih (.inside gathered)
      | whole =>
        rw [opening] at advanced
        rcases advanced with ⟨line, advanced⟩ | ⟨fault, advanced⟩
        · rw [linesOf, faultOf?, advanced]
          refine .line ?_ (ih .outside)
          rw [lineOf, advanced]
        · rw [linesOf, faultOf?, advanced]
          refine .fault ?_
          rw [lineOf, advanced]
    | @inside record column held gathered =>
      have advanced := recovery.advance_inside record column event
      rw [partsBy]
      cases goesOn : recovery.columnAfter column.isSome event with
      | some still =>
        rw [goesOn] at advanced
        obtain ⟨record', column', rfl, advanced⟩ := advanced
        rw [linesOf, faultOf?, advanced]
        exact ih (.inside (lineOf_snoc gathered advanced))
      | none =>
        rw [goesOn] at advanced
        have last : recovery.lineOf {} (event :: held).reverse =
            recovery.lineOf ⟨some record, column⟩ [event] := by
          rw [List.reverse_cons, gathered]
        rcases advanced with ⟨line, advanced⟩ | ⟨fault, advanced⟩
        · rw [linesOf, faultOf?, advanced]
          refine .line ?_ (ih .outside)
          rw [last, lineOf, advanced]
        · rw [linesOf, faultOf?, advanced]
          refine .fault ?_
          rw [last, lineOf, advanced]

/-- The line of a part. -/
def Gives (recovery : Recovery) (part : List Event) (line : List Char) : Prop :=
  recovery.lineOf {} part = .ok (some line)

theorem Accounts.split {parts : List (List Event)} {lines : List (List Char)}
    {fault? : Option ReferenceFault} (accounts : recovery.Accounts parts lines fault?) :
    ∃ done rest, parts = done ++ rest ∧ List.Forall₂ recovery.Gives done lines
      ∧ (fault? = none → rest = [])
      ∧ ∀ met, fault? = some met → ∃ part others, rest = part :: others
        ∧ recovery.lineOf {} part = .error met := by
  induction accounts with
  | nil => exact ⟨[], [], rfl, .nil, fun _ => rfl, nofun⟩
  | @line part line parts lines fault? gives more ih =>
    obtain ⟨done, rest, split, given, last⟩ := ih
    exact ⟨part :: done, rest, congrArg (part :: ·) split, .cons gives given, last⟩
  | @fault part met parts fails =>
    refine ⟨[], part :: parts, rfl, .nil, nofun, ?_⟩
    rintro _ ⟨⟩
    exact ⟨part, parts, rfl, fails⟩

/-! ### Runs -/

section

variable [MultibyteCodecs]

/-- **What a run leaves behind**, given what the reader reports of its document. -/
structure Leaves (recovery : Recovery) (report : Report Unit) (document : Source) (sink : Sink) :
    Prop where
  /-- A run that succeeds has read its document to the end and written the lines of all parts; the
      sink has taken every byte of them and has been flushed. -/
  whole : ∀ count, (recovery.run document sink).result = .ok count →
    ∃ lines, List.Forall₂ recovery.Gives (recovery.parts report.1) lines
      ∧ count = (recovery.parts report.1).length
      ∧ (recovery.run document sink).sink.accepted =
        sink.accepted ++ lines.flatMap recovery.lineBytes
      ∧ (recovery.run document sink).sink.flushFailure = none ∧ report.2 = .ok ()
  /-- A run that fails by its document has written the lines of the parts before the failure, which
      is that of the reader or of a reference in the next part. -/
  failed : ∀ failure, (recovery.run document sink).result = .error failure →
    (∀ reason, failure ≠ .io reason) →
    ∃ done rest lines, recovery.parts report.1 = done ++ rest
      ∧ List.Forall₂ recovery.Gives done lines
      ∧ (recovery.run document sink).sink.accepted =
        sink.accepted ++ lines.flatMap recovery.lineBytes
      ∧ (rest = [] ∧ report.2 = .error failure
        ∨ ∃ part others fault, rest = part :: others ∧ recovery.lineOf {} part = .error fault
          ∧ failure = .document (.reference fault))
  /-- What a sink that fails has taken is the beginning of what one without limits receives. -/
  refused : ∀ reason, (recovery.run document sink).result = .error (.io reason) →
    ∃ taken, taken <+: (recovery.run document {}).sink.accepted
      ∧ (recovery.run document sink).sink.accepted = sink.accepted ++ taken
  /-- Where no line element starts inside another one, the parts are told by nesting. -/
  nesting : recovery.LinesApart [] report.1 →
    recovery.parts report.1 = recovery.outermost report.1

/-- **A run leaves whole lines behind**, whatever its document, its sink and its settings; where
    the charset of the document is unknown, it writes nothing. -/
theorem leaves_run (recovery : Recovery) (document : Source) (sink : Sink) :
    match recovery.style.outputCharset? with
    | .error failure => (recovery.run document sink).result = .error failure
      ∧ (recovery.run document sink).sink = sink
    | .ok charset => recovery.Leaves (documentReport charset document) document sink := by
  cases output : recovery.style.outputCharset? with
  | error failure =>
    dsimp only
    rw [run, output]
    exact ⟨rfl, rfl⟩
  | ok charset =>
    have halted := run_halted output document sink
    obtain ⟨done, rest, split, given, all, next⟩ := (accounts_of_stands Stands.outside
      (documentReport charset document).1).split
    change recovery.parts (documentReport charset document).1 = done ++ rest at split
    obtain ⟨final, nested⟩ := nested_documentReport charset document
    have free : Sink.Open {} := by
      refine ⟨?_, rfl, rfl⟩
      intro none_taken
      cases none_taken
    have unlimited := accepted_of_open output document free
    constructor
    · intro count succeeded
      cases halted with
      | whole ended sound result accepted flushes =>
        rw [all sound, List.append_nil] at split
        rw [split]
        refine ⟨_, given, ?_, accepted, flushes, ended⟩
        rw [given.length_eq]
        exact Except.ok.inj (succeeded.symm.trans result)
      | stopped ended sound result => cases result.symm.trans succeeded
      | fault met result => cases result.symm.trans succeeded
      | refused result => cases result.symm.trans succeeded
    · intro failure failed notSink
      cases halted with
      | whole ended sound result => cases result.symm.trans failed
      | stopped ended sound result accepted =>
        cases result.symm.trans failed
        exact ⟨done, rest, _, split, given, accepted, .inl ⟨all sound, ended⟩⟩
      | @fault fault met result accepted =>
        cases result.symm.trans failed
        obtain ⟨part, others, here, fails⟩ := next fault met
        exact ⟨done, rest, _, split, given, accepted, .inr ⟨part, others, fault, here, fails, rfl⟩⟩
      | refused result =>
        cases result.symm.trans failed
        exact absurd rfl (notSink _)
    · intro reason failed
      cases halted with
      | whole ended sound result => cases result.symm.trans failed
      | stopped ended sound result => cases result.symm.trans failed
      | fault met result => cases result.symm.trans failed
      | @refused _ taken result part accepted =>
        refine ⟨taken, ?_, accepted⟩
        rw [unlimited]
        exact part
    · exact parts_eq_outermost nested

end

/-! ### Line elements in line elements -/

/-- The recovery of settings that are left at their defaults. -/
def plainRecovery : Recovery := Conversion.recovery ⟨{}, .utf8, none, none⟩

/-- **A line element in a line element may end it early.**  In the first document the end tag of
    the inner one comes after that of its column, so the outer one, which is never closed, is
    written; in the second one two lines are written for one outermost line element. -/
theorem nested_line_ends_line :
    let broken := Source.ofBytes
      (Charset.utf8.encode "<a><Line><c>1</c><Line><b>2</b></Line></z>".toList)
    let doubled := Source.ofBytes (Charset.utf8.encode
      "<Line><Line><b>1</b></Line><Line><b>2</b></Line></Line>".toList)
    (plainRecovery.run broken {}).result =
        .error (.document (.markup (.endTagMismatch "Line".toList "z".toList)))
      ∧ plainRecovery.outermost (documentReport .utf8 broken).1 = []
      ∧ (plainRecovery.run broken {}).sink.accepted = Charset.utf8.encode "12\n".toList
      ∧ (plainRecovery.run doubled {}).result = .ok 2
      ∧ (plainRecovery.outermost (documentReport .utf8 doubled).1).length = 1 := by
  decide +kernel

end Recovery

end FlatFile
