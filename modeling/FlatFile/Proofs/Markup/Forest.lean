/-
  FlatFile/Proofs/Markup/Forest.lean
  ==================================
  **Documents as trees, as they are read.**

  `forest?` reads a text as trees with the reader of documents, keeping the elements
  that are still open on a stack, and resolves every reference.  What it reads depends on
  the passages that the text spans, and on nothing else (`events_of_spans`).
-/
import FlatFile.Proofs.Markup.Tree

namespace FlatFile.Markup

/-! ### Reading trees -/

/-- The events of a text from where a reader stands, and the reader after it. -/
def Reader.eventsOf (reader : Reader) : List Char → Except MarkupFault (List Event × Reader)
  | [] => .ok ([], reader)
  | c :: rest =>
    match reader.step c with
    | .error fault => .error fault
    | .ok (event, next) =>
      (next.eventsOf rest).map fun (events, last) => (event.toList ++ events, last)

/-- **The events of a document.** -/
def events (text : List Char) : Except MarkupFault (List Event) := do
  let (events, last) ← Reader.new.eventsOf text
  let ending ← last.finish
  return events ++ ending.toList

/-- An element whose end is still to come, and what stands before it in the element around it. -/
structure OpenElement where
  name : List Char
  attributes : List (List Char × List Char)
  before : List Node

/-- The tree of raw text, none if there is no text. -/
def textNodes? (raw : List Char) : Option (List Node) :=
  if raw.isEmpty then some [] else (unescape raw).toOption.map fun text => [.text text]

/-- The attributes of a tag with the values that they mean. -/
def meaning? (tag : Tag) : Option (List (List Char × List Char)) :=
  tag.attributes.mapM fun (key, raw) => (unescape raw).toOption.map fun value => (key, value)

/-- The trees that some passages give, after those at hand in the innermost open element. -/
def grow : List OpenElement → List Node → List Passage → Option (List OpenElement × List Node)
  | stack, nodes, [] => some (stack, nodes)
  | stack, nodes, ⟨before, event⟩ :: rest => do
    let nodes := nodes ++ (← textNodes? before)
    match event with
    | .comment content => grow stack (nodes ++ [.comment content]) rest
    | .empty tag => grow stack (nodes ++ [.element tag.name (← meaning? tag) []]) rest
    | .start tag => grow (⟨tag.name, ← meaning? tag, nodes⟩ :: stack) [] rest
    | .finish _ =>
      match stack with
      | [] => none
      | inner :: stack =>
        grow stack (inner.before ++ [.element inner.name inner.attributes nodes]) rest
    | _ => grow stack nodes rest

/-- **The trees of a document**, none if it is not well-formed.  Declarations are passed over. -/
def forest? (text : List Char) : Option (List Node) := do
  let events ← (events text).toOption
  let (stack, nodes) ← grow [] [] (passages [] events).1
  let last ← textNodes? (passages [] events).2
  if stack.isEmpty then some (nodes ++ last) else none

/-! ### Reading passages -/

theorem eventsOf_of_reads {reader last : Reader} {chars : List Char} {reported : List Event}
    (h : Reader.Reads reader chars reported last) :
    reader.eventsOf chars = .ok (reported, last) := by
  induction h with
  | nil => rfl
  | cons step _ _ ih =>
    rw [Reader.eventsOf, step]
    simp only [ih]
    rfl

theorem eventsOf_new {text : List Char} (unmarked : text.head? ≠ some '\uFEFF')
    (nonempty : text ≠ []) :
    Reader.new.eventsOf text = (⟨.text [], []⟩ : Reader).eventsOf text := by
  cases text with
  | nil => exact absurd rfl nonempty
  | cons c rest =>
    have other : c ≠ '\uFEFF' := fun same => unmarked (by rw [same, List.head?_cons])
    rw [Reader.eventsOf, Reader.step_new other]
    rfl

/-- **The events of a text come to the passages that it spans.** -/
theorem events_of_spans {text after : List Char} {between : List Passage}
    {elements : List (List Char)} (spans : Spans [] [] text between after elements)
    (unmarked : text.head? ≠ some '\uFEFF') (nonempty : text ≠ []) :
    ∃ reported, events text = .ok reported ∧ passages [] reported = (between, after) := by
  obtain ⟨reported, left, seen, reads, passed, held⟩ := spans [] [] rfl
  refine ⟨reported ++ (textEvent seen).toList, ?_, ?_⟩
  · rw [events, eventsOf_new unmarked nonempty, eventsOf_of_reads reads]
    rfl
  · rw [passages_append, passed, passages_textEvent, held, List.append_nil]

theorem grow_declarations (count : Nat) (stack : List OpenElement) (nodes : List Node)
    (rest : List Passage) :
    grow stack nodes (List.replicate count ⟨[], .other⟩ ++ rest) = grow stack nodes rest := by
  induction count with
  | zero => rfl
  | succ count ih => simpa [List.replicate_succ, grow, textNodes?] using ih

end FlatFile.Markup
