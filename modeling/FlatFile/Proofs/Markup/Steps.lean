/-
  FlatFile/Proofs/Markup/Steps.lean
  =================================
  **What a character can do to a reader of a document.**

  A step moves on, or completes an event of one of a few kinds, each at a character of its
  own (`Stepped`).  Two facts about all documents are read off from there: the events open
  and close elements in order (`nested_step`), and a character that is not one of markup
  completes nothing (`event_eq_none_of_quiet`).
-/
import FlatFile.Markup.Reader

namespace FlatFile.Markup

/-! ### One step -/

def Event.isTag : Event → Bool
  | .start _ | .finish _ => true
  | _ => false

/-- A document type declaration ends at a closing bracket only. -/
theorem DoctypePart.step_ne_none (part : DoctypePart) {c : Char} (other : c ≠ '>') :
    part.step c ≠ none := by
  unfold DoctypePart.step
  split
  · exact nofun
  · rw [if_neg other]
    split
    · exact nofun
    · exact nofun
  · split
    · exact nofun
    · split
      · exact nofun
      · exact nofun
  · exact nofun
  · exact nofun
  · split
    · exact nofun
    · exact nofun
  · split
    · exact nofun
    · exact nofun
  · split
    · exact nofun
    · exact nofun
  · rw [if_neg other]
    exact nofun

namespace Reader

/-- **The event that a character completes, and the reader after it.** -/
inductive Stepped (reader : Reader) (c : Char) : Option Event → Reader → Prop where
  | moved (scan : Scan) : Stepped reader c none { reader with scan }
  | text (seen : List Char) (scan : Scan) (mark : c = '<' ∨ c = '&') :
      Stepped reader c (textEvent seen) { reader with scan }
  | level {event : Event} (level : event.isTag = false) (mark : c = '>' ∨ c = ';') :
      Stepped reader c (some event) { reader with scan := .text [] }
  | start (tag : Tag) (mark : c = '>') :
      Stepped reader c (some (.start tag)) ⟨.text [], tag.name :: reader.openElements⟩
  | finish {name : List Char} {others : List (List Char)} (mark : c = '>')
      (innermost : reader.openElements = name :: others) :
      Stepped reader c (some (.finish name)) ⟨.text [], others⟩

variable {reader next : Reader} {c : Char} {event : Option Event}

theorem stepped_moved {scan : Scan} (step : reader.moved scan = .ok (event, next)) :
    Stepped reader c event next := by
  cases step
  exact .moved scan

theorem stepped_completed {only : Event} (level : only.isTag = false) (mark : c = '>' ∨ c = ';')
    (step : reader.completed (some only) = .ok (event, next)) : Stepped reader c event next := by
  cases step
  exact .level level mark

theorem stepped_stepText {seen : List Char} (step : reader.stepText seen c = .ok (event, next)) :
    Stepped reader c event next := by
  unfold stepText at step
  split at step
  · rename_i mark
    cases step
    exact .text seen .opened (.inl mark)
  · split at step
    · rename_i mark
      cases step
      exact .text seen (.reference []) (.inr mark)
    · exact stepped_moved step

theorem stepped_stepTag {quote : Option Char} {seen : List Char}
    (step : reader.stepTag quote seen c = .ok (event, next)) : Stepped reader c event next := by
  unfold stepTag at step
  split at step
  · rename_i mark
    split at step
    · exact stepped_completed rfl (.inl mark.1) step
    · cases step
      exact .start _ mark.1
  · exact stepped_moved step

theorem stepped_stepEndTag {quote : Option Char} {seen : List Char}
    (step : reader.stepEndTag quote seen c = .ok (event, next)) : Stepped reader c event next := by
  unfold stepEndTag at step
  split at step
  · rename_i mark
    dsimp only at step
    split at step
    · cases step
    · rename_i innermost others elements
      split at step
      · rename_i same
        cases step
        exact .finish mark.1 (same ▸ elements)
      · cases step
  · exact stepped_moved step

theorem stepped_of_step (step : reader.step c = .ok (event, next)) : Stepped reader c event next := by
  unfold Reader.step at step
  cases stands : reader.scan with
  | start =>
    rw [stands] at step
    dsimp only at step
    split at step
    · exact stepped_moved step
    · exact stepped_stepText step
  | text seen =>
    rw [stands] at step
    exact stepped_stepText step
  | reference seen =>
    rw [stands] at step
    dsimp only at step
    split at step
    · rename_i mark
      exact stepped_completed rfl (.inr mark) step
    · split at step
      · cases step
      · exact stepped_moved step
  | opened =>
    rw [stands] at step
    dsimp only at step
    split at step
    · exact stepped_moved step
    · split at step
      · exact stepped_moved step
      · split at step
        · exact stepped_moved step
        · exact stepped_stepTag step
  | bang =>
    rw [stands] at step
    dsimp only at step
    split at step
    · exact stepped_moved step
    · split at step
      · exact stepped_moved step
      · split at step
        · exact stepped_moved step
        · cases step
  | comment seen =>
    rw [stands] at step
    dsimp only at step
    split at step
    · rename_i mark
      split at step
      · exact stepped_completed rfl (.inl mark.1) step
      · cases step
    · exact stepped_moved step
  | cdata seen =>
    rw [stands] at step
    dsimp only at step
    split at step
    · rename_i mark
      split at step
      · exact stepped_completed rfl (.inl mark.1) step
      · cases step
    · exact stepped_moved step
  | doctype part seen =>
    rw [stands] at step
    dsimp only at step
    split at step
    · exact stepped_moved step
    · rename_i ends
      split at step
      · cases step
      · split at step
        · cases step
        · -- The part of the declaration is over, which only a closing bracket brings about.
          have mark : c = '>' :=
            Decidable.byContradiction fun other => part.step_ne_none other ends
          exact stepped_completed rfl (.inl mark) step
  | instruction seen =>
    rw [stands] at step
    dsimp only at step
    split at step
    · rename_i mark
      split at step
      · cases step
      · split at step
        · exact stepped_completed rfl (.inl mark) step
        · exact stepped_moved step
    · exact stepped_moved step
  | tag quote seen =>
    rw [stands] at step
    exact stepped_stepTag step
  | endTag quote seen =>
    rw [stands] at step
    exact stepped_stepEndTag step

end Reader

/-! ### Nesting -/

/-- **Events that open and close elements in order**; an end tag names the innermost one. -/
inductive Nested : List (List Char) → List Event → List (List Char) → Prop where
  | nil (elements : List (List Char)) : Nested elements [] elements
  | start {elements final : List (List Char)} {tag : Tag} {events : List Event}
      (more : Nested (tag.name :: elements) events final) :
      Nested elements (.start tag :: events) final
  | finish {elements final : List (List Char)} {name : List Char} {events : List Event}
      (more : Nested elements events final) :
      Nested (name :: elements) (.finish name :: events) final
  | level {elements final : List (List Char)} {event : Event} {events : List Event}
      (level : event.isTag = false) (more : Nested elements events final) :
      Nested elements (event :: events) final

theorem Nested.append {elements middle final : List (List Char)} {events more : List Event}
    (first : Nested elements events middle) (second : Nested middle more final) :
    Nested elements (events ++ more) final := by
  induction first with
  | nil => exact second
  | start _ ih => exact .start (ih second)
  | finish _ ih => exact .finish (ih second)
  | level level _ ih => exact .level level (ih second)

theorem nested_textEvent (elements : List (List Char)) (seen : List Char) :
    Nested elements (textEvent seen).toList elements := by
  unfold textEvent
  split
  · exact .nil elements
  · exact .level rfl (.nil elements)

namespace Reader

variable {reader next : Reader} {c : Char} {event : Option Event}

/-- **A step keeps account of the elements that are open.** -/
theorem nested_step (step : reader.step c = .ok (event, next)) :
    Nested reader.openElements event.toList next.openElements := by
  cases stepped_of_step step with
  | moved scan => exact .nil _
  | text seen scan mark => exact nested_textEvent _ _
  | level level mark => exact .level level (.nil _)
  | start tag mark => exact .start (.nil _)
  | finish mark innermost =>
    rw [innermost]
    exact .finish (.nil _)

theorem nested_finish (finished : reader.finish = .ok event) :
    Nested reader.openElements event.toList reader.openElements := by
  unfold Reader.finish at finished
  split at finished
  · cases finished
    exact .nil _
  · cases finished
    exact nested_textEvent _ _
  all_goals cases finished

theorem openElements_pause (reader : Reader) : reader.pause.openElements = reader.openElements := by
  unfold pause
  split
  · rfl
  · rfl

/-! ### Quiet characters -/

/-- A character that does not belong to markup completes nothing. -/
theorem event_eq_none_of_quiet (quiet : c ≠ '<' ∧ c ≠ '&' ∧ c ≠ '>' ∧ c ≠ ';')
    (step : reader.step c = .ok (event, next)) : event = none := by
  cases stepped_of_step step with
  | moved scan => rfl
  | text seen scan mark => exact absurd mark (not_or.mpr ⟨quiet.1, quiet.2.1⟩)
  | level level mark => exact absurd mark (not_or.mpr quiet.2.2)
  | start tag mark => exact absurd mark quiet.2.2.1
  | finish mark innermost => exact absurd mark quiet.2.2.1

end Reader

end FlatFile.Markup
