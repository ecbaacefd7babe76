/-
  FlatFile/Proofs/Markup/Escaping.lean
  ====================================
  **Escaped text holds no markup, and means the text it was made of.**

  `RawText` is what may stand between two tags: characters other than `<` and `&`,
  and references.  Escaped text is of this kind (`rawText_escape`), holds no quote,
  and its references resolve to the text again (`unescape_escape`).
-/
import FlatFile.Markup.Escape

namespace FlatFile.Markup

/-! ### Raw text -/

/-- Text as it may stand between tags: no `<`, and no `&` but at the start of a reference. -/
inductive RawText : List Char → Prop where
  | nil : RawText []
  | char {c : Char} {rest : List Char} (plain : c ≠ '<' ∧ c ≠ '&') (more : RawText rest) :
      RawText (c :: rest)
  | reference {name rest : List Char} (closed : ∀ c ∈ name, c ≠ ';' ∧ c ≠ '&' ∧ c ≠ '<')
      (more : RawText rest) : RawText ('&' :: (name ++ ';' :: rest))

theorem RawText.append {text more : List Char} (h : RawText text) (h' : RawText more) :
    RawText (text ++ more) := by
  induction h with
  | nil => exact h'
  | char plain _ ih => exact .char plain ih
  | reference closed _ ih =>
    rw [List.cons_append, List.append_assoc, List.cons_append]
    exact .reference closed ih

/-! ### Escaped characters -/

/-- What a character becomes: a reference to it, or itself if it is none of the five. -/
theorem escapeChar_cases (c : Char) :
    (∃ name, escapeChar c = '&' :: (name ++ [';']) ∧ entity? name = some c
        ∧ ∀ d ∈ name, d ≠ ';' ∧ d ≠ '&' ∧ d ≠ '<' ∧ d ≠ '"' ∧ d ≠ '#')
      ∨ (escapeChar c = [c] ∧ c ≠ '<' ∧ c ≠ '&' ∧ c ≠ '"') := by
  by_cases lt : c = '<'
  · subst lt; exact .inl ⟨['l', 't'], rfl, rfl, by simp⟩
  by_cases gt : c = '>'
  · subst gt; exact .inl ⟨['g', 't'], rfl, rfl, by simp⟩
  by_cases amp : c = '&'
  · subst amp; exact .inl ⟨['a', 'm', 'p'], rfl, rfl, by simp⟩
  by_cases apos : c = '\''
  · subst apos; exact .inl ⟨['a', 'p', 'o', 's'], rfl, rfl, by simp⟩
  by_cases quot : c = '"'
  · subst quot; exact .inl ⟨['q', 'u', 'o', 't'], rfl, rfl, by simp⟩
  · exact .inr ⟨by simp only [escapeChar, lt, gt, amp, apos, quot, if_false], lt, amp, quot⟩

theorem rawText_escapeChar (c : Char) : RawText (escapeChar c) := by
  rcases escapeChar_cases c with ⟨name, eq, -, closed⟩ | ⟨eq, lt, amp, -⟩
  · rw [eq]
    exact .reference (fun d inside => ⟨(closed d inside).1, (closed d inside).2.1,
      (closed d inside).2.2.1⟩) .nil
  · rw [eq]
    exact .char ⟨lt, amp⟩ .nil

/-- **Escaped text is raw text.** -/
theorem rawText_escape (text : List Char) : RawText (escape text) := by
  induction text with
  | nil => exact .nil
  | cons c text ih => exact (rawText_escapeChar c).append ih

theorem quote_not_mem_escape (text : List Char) : '"' ∉ escape text := by
  intro inside
  rcases List.mem_flatMap.mp inside with ⟨c, -, inside⟩
  rcases escapeChar_cases c with ⟨name, eq, -, closed⟩ | ⟨eq, -, -, quot⟩
  · rw [eq] at inside
    simp only [List.mem_cons, List.mem_append, List.not_mem_nil, or_false] at inside
    rcases inside with inside | inside | inside
    · exact absurd inside (by decide)
    · exact (closed _ inside).2.2.2.1 rfl
    · exact absurd inside (by decide)
  · rw [eq, List.mem_singleton] at inside
    exact quot inside.symm

@[simp] theorem escape_nil : escape [] = [] := rfl

@[simp] theorem escape_eq_nil {text : List Char} : escape text = [] ↔ text = [] := by
  cases text with
  | nil => simp [escape]
  | cons c text =>
    rcases escapeChar_cases c with ⟨name, eq, -⟩ | ⟨eq, -⟩ <;> simp [escape, eq]

@[simp] theorem isEmpty_escape (text : List Char) : (escape text).isEmpty = text.isEmpty := by
  rw [Bool.eq_iff_iff, List.isEmpty_iff, List.isEmpty_iff, escape_eq_nil]

/-! ### Resolving -/

theorem unescapeFrom_name {name : List Char} (closed : ∀ c ∈ name, c ≠ ';' ∧ c ≠ '&')
    (total position first : Nat) (seen rest : List Char) :
    ∃ position', unescapeFrom total position (.reference first seen) (name ++ rest) =
      unescapeFrom total position' (.reference first (name.reverse ++ seen)) rest := by
  induction name generalizing position seen with
  | nil => exact ⟨position, rfl⟩
  | cons c name ih =>
    rcases List.forall_mem_cons.mp closed with ⟨here, others⟩
    obtain ⟨position', eq⟩ := ih others (position + c.utf8Size) (c :: seen)
    refine ⟨position', ?_⟩
    rw [List.cons_append, unescapeFrom, if_neg here.1, if_neg here.2, eq]
    simp

/-- A reference is resolved to its character. -/
theorem unescapeFrom_reference {name : List Char} (closed : ∀ c ∈ name, c ≠ ';' ∧ c ≠ '&')
    {c : Char} (resolved : ∀ first, resolve first name = .ok c) (total position : Nat)
    (rest : List Char) :
    ∃ position', unescapeFrom total position .plain ('&' :: (name ++ [';']) ++ rest) =
      (unescapeFrom total position' .plain rest).map (c :: ·) := by
  obtain ⟨position', eq⟩ :=
    unescapeFrom_name closed total (position + 1) position [] ([';'] ++ rest)
  refine ⟨position' + 1, ?_⟩
  rw [List.cons_append, unescapeFrom, if_pos rfl, List.append_assoc, eq, List.append_nil,
    List.singleton_append, unescapeFrom, if_pos rfl, List.reverse_reverse, resolved]

theorem unescapeFrom_escapeChar (c : Char) (total position : Nat) (rest : List Char) :
    ∃ position', unescapeFrom total position .plain (escapeChar c ++ rest) =
      (unescapeFrom total position' .plain rest).map (c :: ·) := by
  rcases escapeChar_cases c with ⟨name, eq, entity, closed⟩ | ⟨eq, -, amp, -⟩
  · rw [eq]
    have resolved (first : Nat) : resolve first name = .ok c := by
      unfold resolve
      split
      · exact absurd rfl (closed '#' List.mem_cons_self).2.2.2.2
      · simp [entity]
    exact unescapeFrom_reference (fun d inside => ⟨(closed d inside).1, (closed d inside).2.1⟩)
      resolved total position rest
  · rw [eq, List.singleton_append, unescapeFrom, if_neg amp]
    exact ⟨_, rfl⟩

theorem unescapeFrom_escape (text : List Char) (total position : Nat) :
    unescapeFrom total position .plain (escape text) = .ok text := by
  induction text generalizing position with
  | nil => rfl
  | cons c text ih =>
    obtain ⟨position', eq⟩ := unescapeFrom_escapeChar c total position (escape text)
    rw [show escape (c :: text) = escapeChar c ++ escape text from rfl, eq, ih]
    rfl

/-- **Resolving undoes escaping.** -/
@[simp] theorem unescape_escape (text : List Char) : unescape (escape text) = .ok text :=
  unescapeFrom_escape text _ 0

end FlatFile.Markup
