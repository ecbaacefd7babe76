/-
  FlatFile/Proofs/Markup/Passages.lean
  ====================================
  **What a stretch of a document says, wherever its text was cut into events.**

  The reader reports the text between two tags in several events, one for each
  reference in it and one for each run of characters between them; whoever takes
  them puts the raw text together again.  A `Passage` is a piece of markup with all
  the raw text before it, and `passages` is the view of a list of events in which
  only that counts.

  `Spans` says what a stretch of a document comes to in this view.  It speaks of the
  raw text before the stretch and after it, not of how much of that text the reader
  still holds, so stretches can be put one after the other (`Spans.append`); there is
  one lemma for each kind of piece that a document is made of.
-/
import FlatFile.Proofs.Markup.Escaping
import FlatFile.Proofs.Markup.Reading

namespace FlatFile.Markup

/-! ### Passages -/

/-- A piece of markup, and the raw text between it and the one before. -/
structure Passage where
  before : List Char
  event : Event
deriving DecidableEq, Repr

/-- The raw text that an event stands for, if it is no piece of markup. -/
def Event.raw? : Event → Option (List Char)
  | .text raw => some raw
  | .reference name => some ('&' :: name ++ [';'])
  | .cdata content => some (escape content)
  | _ => none

/-- The passages of some events after the raw text `before`, and the raw text that is left after
    the last of them. -/
def passages (before : List Char) : List Event → List Passage × List Char
  | [] => ([], before)
  | event :: rest =>
    match event.raw? with
    | some raw => passages (before ++ raw) rest
    | none => (⟨before, event⟩ :: (passages [] rest).1, (passages [] rest).2)

theorem passages_append (before : List Char) (events more : List Event) :
    passages before (events ++ more) =
      ((passages before events).1 ++ (passages (passages before events).2 more).1,
        (passages (passages before events).2 more).2) := by
  induction events generalizing before with
  | nil => rfl
  | cons event events ih =>
    rw [List.cons_append, passages, passages]
    cases event.raw? with
    | some raw => exact ih _
    | none => simp [ih]

theorem passages_textEvent (before seen : List Char) :
    passages before (textEvent seen).toList = ([], before ++ seen.reverse) := by
  cases seen with
  | nil => simp [textEvent, passages]
  | cons c seen => simp [textEvent, passages, Event.raw?]

theorem passages_markup (before seen : List Char) {event : Event} (markup : event.raw? = none) :
    passages before ((textEvent seen).toList ++ [event]) =
      ([⟨before ++ seen.reverse, event⟩], []) := by
  rw [passages_append, passages_textEvent]
  simp [passages, markup]

/-! ### Stretches of a document -/

/-- **The stretch** takes the reader from the raw text `text` inside some open elements, over the
    passages, to the raw text `text'` inside others. -/
def Spans (text : List Char) (elements : List (List Char)) (chars : List Char)
    (between : List Passage) (text' : List Char) (elements' : List (List Char)) : Prop :=
  ∀ before seen, before ++ seen.reverse = text →
    ∃ events after seen',
      Reader.Reads ⟨.text seen, elements⟩ chars events ⟨.text seen', elements'⟩
        ∧ passages before events = (between, after) ∧ after ++ seen'.reverse = text'

variable {text text' text'' chars more : List Char}
  {elements elements' elements'' : List (List Char)} {between between' : List Passage}

theorem Spans.nil (text : List Char) (elements : List (List Char)) :
    Spans text elements [] [] text elements :=
  fun before seen held => ⟨[], before, seen, .nil _, rfl, held⟩

theorem Spans.append (first : Spans text elements chars between text' elements')
    (second : Spans text' elements' more between' text'' elements'') :
    Spans text elements (chars ++ more) (between ++ between') text'' elements'' := by
  intro before seen held
  obtain ⟨events, middle, seen', reads, passed, held'⟩ := first before seen held
  obtain ⟨events', after, seen'', reads', passed', held''⟩ := second middle seen' held'
  refine ⟨events ++ events', after, seen'', reads.append reads', ?_, held''⟩
  rw [passages_append, passed, passed']

/-- A piece of markup that the reader reports in one event, whatever text is before it. -/
theorem Spans.of_reads {event : Event} (markup : event.raw? = none)
    (reads : ∀ seen, Reader.Reads ⟨.text seen, elements⟩ chars ((textEvent seen).toList ++ [event])
      ⟨.text [], elements'⟩) (text : List Char) :
    Spans text elements chars [⟨text, event⟩] [] elements' := by
  intro before seen held
  exact ⟨_, [], [], reads seen, by rw [passages_markup before seen markup, held], rfl⟩

/-! ### The pieces of a document -/

/-- Raw text is added to the text before it, the references in it like the rest. -/
theorem spans_raw {raw : List Char} (h : RawText raw) (text : List Char)
    (elements : List (List Char)) : Spans text elements raw [] (text ++ raw) elements := by
  induction h generalizing text with
  | nil => simpa using Spans.nil text elements
  | @char c rest plain _ ih =>
    have here : Spans text elements [c] [] (text ++ [c]) elements := by
      intro before seen held
      have reads := Reader.reads_plain seen elements (fun d inside =>
        List.mem_singleton.mp inside ▸ plain : ∀ d ∈ [c], d ≠ '<' ∧ d ≠ '&')
      exact ⟨[], before, _, reads, rfl, by simp [← held]⟩
    simpa using here.append (ih (text ++ [c]))
  | @reference name rest closed _ ih =>
    have here : Spans text elements ('&' :: (name ++ [';'])) []
        (text ++ '&' :: (name ++ [';'])) elements := by
      intro before seen held
      refine ⟨_, _, [], Reader.reads_reference seen elements closed, ?_, List.append_nil _⟩
      rw [passages_append, passages_textEvent, held]
      simp [passages, Event.raw?]
    simpa using here.append (ih (text ++ '&' :: (name ++ [';'])))

variable (text elements)

theorem spans_startTag {name : List Char} {attributes : List Attribute}
    (named : isName name = true) (wellFormed : ∀ written ∈ attributes, written.WellFormed) :
    Spans text elements (startTag name attributes)
      [⟨text, .start ⟨name, attributes.flatMap Attribute.render⟩⟩] [] (name :: elements) :=
  .of_reads rfl (fun seen => Reader.reads_startTag seen elements named wellFormed) text

theorem spans_emptyTag {name : List Char} {attributes : List Attribute}
    (named : isName name = true) (wellFormed : ∀ written ∈ attributes, written.WellFormed) :
    Spans text elements (emptyTag name attributes)
      [⟨text, .empty ⟨name, attributes.flatMap Attribute.render⟩⟩] [] elements :=
  .of_reads rfl (fun seen => Reader.reads_emptyTag seen elements named wellFormed) text

theorem spans_endTag {name : List Char} (named : isName name = true) :
    Spans text (name :: elements) (endTag name) [⟨text, .finish name⟩] [] elements :=
  .of_reads rfl (fun seen => Reader.reads_endTag seen elements named) text

theorem spans_comment (line : List Char) :
    Spans text elements (comment (commentBody line)) [⟨text, .comment (commentBody line)⟩] []
      elements :=
  .of_reads rfl (fun seen => Reader.reads_comment seen elements line) text

theorem spans_declaration {charset : String} (plain : '>' ∉ charset.toList) :
    Spans text elements (declaration charset) [⟨text, .other⟩] [] elements :=
  .of_reads rfl (fun seen => Reader.reads_declaration seen elements plain) text

end FlatFile.Markup
