/-
  FlatFile/Line/Drain.lean
  ========================
  **Taking all lines of a reader.**

  `LineReader.drain` asks for the next line until there is none.  It comes to an
  end because each answer uses something up: a read of the source, the news of
  its end, or characters at hand, in this order of weight.
-/
import FlatFile.Line.Reader

namespace FlatFile

/-- A line that is found starts nowhere before the search does, and its end takes up
    some text. -/
theorem Line.findEnd_found {terminator : Line.Terminator} {ended : Bool} {position : Nat}
    {text : List Char} {stop next : Nat}
    (h : Line.findEnd terminator ended position text = .found stop next) :
    text ≠ [] ∧ position ≤ stop ∧ stop < next := by
  induction text generalizing position with
  | nil => simp [Line.findEnd] at h
  | cons c rest ih =>
    refine ⟨List.cons_ne_nil _ _, ?_⟩
    unfold Line.findEnd at h
    split at h
    · split at h
      · cases h; omega
      · have := ih h; omega
    · split at h
      · cases h; omega
      · split at h
        · split at h
          · cases h; omega
          · cases h; omega
          · split at h
            · cases h; omega
            · cases h
        · have := ih h; omega

namespace LineBuffer

/-- Taking a complete line leaves less text at hand. -/
theorem cut_some {buffer buffer' : LineBuffer} {line : List Char}
    (h : buffer.cut = (some line, buffer')) :
    buffer'.backlog.length < buffer.backlog.length ∧ buffer'.ended = buffer.ended := by
  unfold cut at h
  split at h
  · rename_i stop next found
    have bounds := Line.findEnd_found found
    have nonempty : buffer.backlog.drop buffer.scanned ≠ [] := bounds.1
    have : buffer.backlog.length ≠ 0 := by
      intro zero
      exact nonempty (by simp [List.length_eq_zero_iff.mp zero])
    cases h
    simp only [List.length_drop, and_true]
    omega
  · cases h

/-- Looking for a line that is not there changes nothing but how far was looked. -/
theorem cut_none {buffer buffer' : LineBuffer} (h : buffer.cut = (none, buffer')) :
    buffer'.backlog = buffer.backlog ∧ buffer'.ended = buffer.ended := by
  unfold cut at h
  split at h
  · cases h
  · cases h; exact ⟨rfl, rfl⟩

/-- Taking the last lines leaves less text at hand as well. -/
theorem cutLast_some {buffer buffer' : LineBuffer} {line : List Char}
    (h : buffer.cutLast = (some line, buffer')) :
    buffer'.backlog.length < buffer.backlog.length ∧ buffer'.ended = buffer.ended := by
  unfold cutLast at h
  split at h
  · rename_i line' buffer'' cut
    cases h
    exact cut_some cut
  · rename_i buffer'' cut
    have same := cut_none cut
    split at h
    · cases h
    · rename_i nonempty
      cases h
      rw [← same.1]
      refine ⟨?_, same.2⟩
      simpa [List.length_pos_iff] using nonempty

/-- Where there is no last line either, no text is at hand. -/
theorem cutLast_none {buffer buffer' : LineBuffer} (h : buffer.cutLast = (none, buffer')) :
    buffer'.backlog = buffer.backlog ∧ buffer'.ended = buffer.ended := by
  unfold cutLast at h
  split at h
  · cases h
  · rename_i cut
    split at h
    · cases h; exact cut_none cut
    · cases h

/-- Taking the last lines does not bring the end of the source. -/
theorem cutLast_ended (buffer : LineBuffer) : buffer.cutLast.2.ended = buffer.ended := by
  unfold cutLast
  split
  · rename_i cut
    exact (cut_some cut).2
  · rename_i cut
    split <;> exact (cut_none cut).2

end LineBuffer

namespace LineReader

/-- What is left to do for a reader: reads to make, the end of the source to meet,
    characters to hand out. -/
def weight (reader : LineReader) : Nat × Nat × Nat :=
  (reader.source.length, if reader.buffer.ended then 0 else 1, reader.buffer.backlog.length)

/-- One weight is less than another, the first component that differs deciding. -/
def Lighter (a b : Nat × Nat × Nat) : Prop :=
  Prod.Lex (· < ·) (Prod.Lex (· < ·) (· < ·)) a b

theorem Lighter.reads_le {a b : Nat × Nat × Nat} (h : Lighter a b) : a.1 ≤ b.1 := by
  obtain ⟨a₁, a₂⟩ := a
  obtain ⟨b₁, b₂⟩ := b
  cases h with
  | left _ _ h => exact Nat.le_of_lt h
  | right _ _ => exact Nat.le_refl _

theorem Lighter.ofReads {a b : Nat × Nat × Nat} (h : a.1 < b.1) : Lighter a b :=
  Prod.Lex.left _ _ h

theorem Lighter.ofEnd {a b : Nat × Nat × Nat} (h : a.1 ≤ b.1) (h' : a.2.1 < b.2.1) :
    Lighter a b := by
  obtain ⟨a₁, a₂, a₃⟩ := a
  obtain ⟨b₁, b₂, b₃⟩ := b
  rcases Nat.lt_or_eq_of_le h with h | h
  · exact Prod.Lex.left _ _ h
  · cases h; exact Prod.Lex.right _ (Prod.Lex.left _ _ h')

theorem Lighter.ofText {a b : Nat × Nat × Nat} (h : a.1 ≤ b.1) (h' : a.2.1 = b.2.1)
    (h'' : a.2.2 < b.2.2) : Lighter a b := by
  obtain ⟨a₁, a₂, a₃⟩ := a
  obtain ⟨b₁, b₂, b₃⟩ := b
  rcases Nat.lt_or_eq_of_le h with h | h
  · exact Prod.Lex.left _ _ h
  · cases h; cases h'; exact Prod.Lex.right _ (Prod.Lex.right _ h'')

theorem Lighter.trans {a b c : Nat × Nat × Nat} (h : Lighter a b) (h' : Lighter b c) :
    Lighter a c := by
  simp only [Lighter, Prod.lex_def] at h h' ⊢
  omega

variable [MultibyteCodecs]

/-- Whatever is pulled from a source, it uses up part of it. -/
theorem pull_lighter {buffer : LineBuffer} {source : Source}
    {item : Option (Except IoFailure (List Char))} {reader : LineReader}
    (fresh : buffer.ended = false) (h : pull buffer source = (item, reader)) :
    Lighter reader.weight (weight ⟨buffer, source, false⟩) := by
  induction source generalizing buffer with
  | nil =>
    unfold pull at h
    split at h
    · rename_i cut
      cases h
      have := LineBuffer.cut_some cut
      exact .ofText (Nat.le_refl _) (by simp [weight, this.2]) this.1
    · rename_i buffer' cut
      simp only [Prod.mk.injEq] at h
      obtain ⟨-, rfl⟩ := h
      have ended : buffer'.close.cutLast.2.ended = true := LineBuffer.cutLast_ended _
      exact .ofEnd (Nat.le_refl _) (by simp only [weight, ended, fresh]; decide)
  | cons reading rest ih =>
    unfold pull at h
    split at h
    · rename_i cut
      cases h
      have := LineBuffer.cut_some cut
      exact .ofText (Nat.le_refl _) (by simp [weight, this.2]) this.1
    · rename_i buffer' cut
      have same := LineBuffer.cut_none cut
      have later (r : LineReader) (b : LineBuffer)
          (light : Lighter r.weight (weight ⟨b, rest, false⟩)) :
          Lighter r.weight (weight ⟨buffer, reading :: rest, false⟩) :=
        .ofReads (Nat.lt_of_le_of_lt light.reads_le (Nat.lt_succ_self rest.length))
      split at h
      · contradiction
      · rename_i eq
        cases eq
        cases h
        exact .ofReads (by simp [weight])
      · rename_i b bytes rest' eq
        cases eq
        exact later _ _ (ih (by simp [LineBuffer.feed, same.2, fresh]) h)
      · rename_i failure rest' eq
        cases eq
        split at h
        · exact later _ _ (ih (by simp [same.2, fresh]) h)
        · cases h
          exact .ofReads (by simp [weight])

/-- A line or a failure that is handed out uses up part of the source. -/
theorem next_lighter {reader reader' : LineReader} {item : Except IoFailure (List Char)}
    (h : reader.next = (some item, reader')) : Lighter reader'.weight reader.weight := by
  unfold next at h
  split at h
  · cases h
  · split at h
    · simp only [Prod.mk.injEq, Option.map_eq_some_iff] at h
      obtain ⟨⟨line, hline, -⟩, rfl⟩ := h
      have := LineBuffer.cutLast_some (Prod.ext hline rfl)
      exact .ofText (Nat.le_refl _) (by simp [weight, this.2]) this.1
    · rename_i fresh
      exact pull_lighter (by simpa using fresh) h

/-- Asking for a line where there is none makes nothing more to do. -/
theorem next_not_heavier {reader reader' : LineReader} (h : reader.next = (none, reader')) :
    reader'.weight = reader.weight ∨ Lighter reader'.weight reader.weight := by
  unfold next at h
  split at h
  · cases h; exact .inl rfl
  · split at h
    · simp only [Prod.mk.injEq, Option.map_eq_none_iff] at h
      obtain ⟨hline, rfl⟩ := h
      have := LineBuffer.cutLast_none (Prod.ext hline rfl)
      exact .inl (by simp [weight, this])
    · rename_i fresh
      exact .inr (pull_lighter (by simpa using fresh) h)

omit [MultibyteCodecs] in
theorem lighter_wf : WellFounded Lighter :=
  (Prod.lex ⟨_, Nat.lt_wfRel.wf⟩ (Prod.lex ⟨_, Nat.lt_wfRel.wf⟩ ⟨_, Nat.lt_wfRel.wf⟩)).wf

/-- **All that is left to hand out**, and the reader after it. -/
def drain (reader : LineReader) : List (Except IoFailure (List Char)) × LineReader :=
  match _h : reader.next with
  | (none, reader') => ([], reader')
  | (some item, reader') =>
    let (items, final) := reader'.drain
    (item :: items, final)
termination_by reader.weight
decreasing_by exact next_lighter (by assumption)

end LineReader

end FlatFile
