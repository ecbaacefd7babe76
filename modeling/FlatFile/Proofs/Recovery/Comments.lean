/-
  FlatFile/Proofs/Recovery/Comments.lean
  ======================================
  **No header line closes its comment or is damaged by it.**

  In the comment of a header line no two hyphens stand side by side: a space goes between
  them, and nowhere else.  So the line is told by its pieces (`hyphenPieces`): it is cut
  between any two hyphens side by side, and what the comment holds is the pieces with
  spaces between them (`hyphensApart_flatten`).  A text without such hyphens is a single
  piece (`hyphensApart_of_isChain`), and the text with its hyphens apart is one of these
  (`isChain_hyphensApart`); for that reason a second pass adds nothing.
-/
import FlatFile.Proofs.Recovery.Lines
import Mathlib.Data.List.SplitBy

namespace FlatFile

open Markup Recovery

variable {text piece rest : List Char}

/-- One of the two characters is no hyphen. -/
def Apart (c d : Char) : Prop := ¬ (c = '-' ∧ d = '-')

instance (c d : Char) : Decidable (Apart c d) := inferInstanceAs (Decidable (¬ _))

/-- The pieces of a line, which is cut between any two hyphens that stand side by side. -/
def hyphenPieces (line : List Char) : List (List Char) := line.splitBy fun c d => Apart c d

/-- The first piece ends with a hyphen, and the second one begins with one. -/
def MeetAtHyphens (piece next : List Char) : Prop :=
  piece.getLast? = some '-' ∧ next.head? = some '-'

theorem isChain_apart_iff : text.IsChain Apart ↔ ¬ ['-', '-'] <:+: text := by
  rw [List.isChain_iff_forall_rel_of_append_cons_cons]
  constructor
  · rintro chain ⟨before, after, rfl⟩
    have joined : before ++ ['-', '-'] ++ after = before ++ '-' :: '-' :: after := by simp
    exact chain joined ⟨rfl, rfl⟩
  · rintro apart c d before after rfl ⟨rfl, rfl⟩
    exact apart ⟨before, after, by simp⟩

/-! ### Where spaces go -/

theorem hyphensApart_cons_of_apart {c d : Char} (apart : Apart c d) (rest : List Char) :
    hyphensApart (c :: d :: rest) = c :: hyphensApart (d :: rest) := by
  rw [hyphensApart, if_neg apart]

/-- A text without two hyphens side by side stays as it is. -/
theorem hyphensApart_of_isChain (chain : text.IsChain Apart) : hyphensApart text = text := by
  induction chain with
  | nil => rfl
  | singleton c => rfl
  | cons_cons apart chain ih => rw [hyphensApart_cons_of_apart apart, ih]

/-- **Behind a piece goes a space** if the next one begins with a hyphen as it ends with one. -/
theorem hyphensApart_append (chain : piece.IsChain Apart) (meet : MeetAtHyphens piece rest) :
    hyphensApart (piece ++ rest) = piece ++ ' ' :: hyphensApart rest := by
  obtain ⟨last, first⟩ := meet
  induction chain with
  | nil => cases last
  | singleton c =>
    obtain ⟨others, rfl⟩ := List.head?_eq_some_iff.mp first
    obtain rfl : c = '-' := Option.some.inj last
    rfl
  | @cons_cons c d piece apart chain ih =>
    rw [List.getLast?_cons_cons] at last
    have others := ih last
    rw [List.cons_append] at others ⊢
    rw [List.cons_append, hyphensApart_cons_of_apart apart, others]
    rfl

/-- **A text with its hyphens apart is its pieces with spaces between them.** -/
theorem hyphensApart_flatten {pieces : List (List Char)}
    (chains : ∀ piece ∈ pieces, piece.IsChain Apart) (meet : pieces.IsChain MeetAtHyphens) :
    hyphensApart pieces.flatten = [' '].intercalate pieces := by
  induction meet with
  | nil => rfl
  | singleton piece =>
    rw [List.flatten_singleton, List.intercalate_singleton]
    exact hyphensApart_of_isChain (chains piece List.mem_cons_self)
  | @cons_cons piece next pieces meet _ ih =>
    obtain ⟨chain, chains⟩ := List.forall_mem_cons.mp chains
    obtain ⟨others, begins⟩ := List.head?_eq_some_iff.mp meet.2
    have meets : MeetAtHyphens piece (next :: pieces).flatten := by
      rw [begins]
      exact ⟨meet.1, rfl⟩
    rw [List.flatten_cons, hyphensApart_append chain meets, ih chains, List.intercalate_cons_cons,
      List.append_assoc, List.singleton_append]

theorem isChain_of_mem_hyphenPieces {line : List Char} (inside : piece ∈ hyphenPieces line) :
    piece.IsChain Apart :=
  (List.isChain_of_mem_splitBy inside).imp fun _ _ apart => of_decide_eq_true apart

theorem hyphenPieces_meet (line : List Char) : (hyphenPieces line).IsChain MeetAtHyphens := by
  apply (List.isChain_getLast_head_splitBy _ line).imp
  rintro piece next ⟨filled, filled', together⟩
  obtain ⟨last, first⟩ := Decidable.not_not.mp (of_decide_eq_false together)
  exact ⟨by rw [List.getLast?_eq_some_getLast filled, last],
    by rw [List.head?_eq_some_head filled', first]⟩

/-! ### Texts with their hyphens apart -/

theorem exists_hyphensApart_cons (c : Char) (rest : List Char) :
    ∃ rest', hyphensApart (c :: rest) = c :: rest' := by
  cases rest with
  | nil => exact ⟨[], rfl⟩
  | cons d rest =>
    rw [hyphensApart]
    split
    · exact ⟨_, rfl⟩
    · exact ⟨_, rfl⟩

theorem isChain_hyphensApart (text : List Char) : (hyphensApart text).IsChain Apart := by
  induction text with
  | nil => exact .nil
  | cons c text ih =>
    cases text with
    | nil => exact .singleton c
    | cons d rest =>
      obtain ⟨rest', first⟩ := exists_hyphensApart_cons d rest
      rw [first] at ih
      by_cases apart : Apart c d
      · rw [hyphensApart_cons_of_apart apart, first]
        exact .cons_cons apart ih
      · rw [hyphensApart, if_pos (Decidable.not_not.mp apart), first]
        exact .cons_cons (fun both => absurd both.2 (by decide))
          (.cons_cons (fun both => absurd both.1 (by decide)) ih)

/-- **Hyphens are kept apart once.** -/
theorem hyphensApart_hyphensApart (text : List Char) :
    hyphensApart (hyphensApart text) = hyphensApart text :=
  hyphensApart_of_isChain (isChain_hyphensApart text)

/-! ### Comments -/

theorem commentBody_eq (line : List Char) :
    commentBody line = ' ' :: hyphensApart line ++ [' '] := by
  rw [commentBody, spreadHyphens_eq]

theorem isChain_commentBody (line : List Char) : (commentBody line).IsChain Apart := by
  rw [commentBody_eq]
  apply List.IsChain.append
  · apply List.isChain_cons.mpr
    exact ⟨fun c _ both => absurd both.1 (by decide), isChain_hyphensApart line⟩
  · exact .singleton ' '
  · rintro c - d last both
    cases last
    exact absurd both.2 (by decide)

/-- **A header line can neither close nor corrupt its comment.**  What is written between the
    marks of the comment has a space at either end and no two hyphens side by side, and is
    read as one comment that ends where it was closed.  Without these two spaces it is the
    pieces of the line with a space wherever two of them meet at hyphens, the line itself if
    it has no two hyphens side by side; as a header line it gets nothing but the two spaces. -/
theorem headerComment_closes (line : List Char) :
    Rendering.headerComment line = Rendering.indent ++ comment (commentBody line) ++ ['\n']
      ∧ commentBody line = ' ' :: headerLine (commentBody line) ++ [' ']
      ∧ ¬ ['-', '-'] <:+: commentBody line
      ∧ (hyphenPieces line).flatten = line
      ∧ (hyphenPieces line).IsChain MeetAtHyphens
      ∧ headerLine (commentBody line) = [' '].intercalate (hyphenPieces line)
      ∧ (¬ ['-', '-'] <:+: line → commentBody line = ' ' :: line ++ [' '])
      ∧ commentBody (headerLine (commentBody line)) = ' ' :: headerLine (commentBody line) ++ [' ']
      ∧ ∀ openElements, Reader.Reads ⟨.text [], openElements⟩ (comment (commentBody line))
          [.comment (commentBody line)] ⟨.text [], openElements⟩ := by
  have whole : (hyphenPieces line).flatten = line := List.flatten_splitBy _ line
  have spread : hyphensApart line = [' '].intercalate (hyphenPieces line) := by
    have joined := hyphensApart_flatten (fun _ inside => isChain_of_mem_hyphenPieces inside)
      (hyphenPieces_meet line)
    rwa [whole] at joined
  rw [headerLine_commentBody]
  refine ⟨rfl, commentBody_eq line, isChain_apart_iff.mp (isChain_commentBody line), whole,
    hyphenPieces_meet line, spread, ?_, ?_, ?_⟩
  · intro apart
    rw [commentBody_eq, hyphensApart_of_isChain (isChain_apart_iff.mpr apart)]
  · rw [commentBody_eq, hyphensApart_hyphensApart]
  · intro openElements
    exact Reader.reads_comment [] openElements line

/-- Runs of two and three hyphens in one line, single hyphens and a space between two of them
    in another. -/
theorem headerComment_closes_dashed :
    headerLine (commentBody "a--b---c-".toList) = "a- -b- - -c-".toList
      ∧ (hyphenPieces "a--b---c-".toList).flatten = "a--b---c-".toList
      ∧ hyphenPieces "a--b---c-".toList = ["a-".toList, "-b-".toList, "-".toList, "-c-".toList]
      ∧ commentBody "-a- -b".toList = " -a- -b ".toList := by
  obtain ⟨-, -, -, whole, -, spread, -⟩ := headerComment_closes "a--b---c-".toList
  obtain ⟨-, -, -, -, -, -, padded, -⟩ := headerComment_closes "-a- -b".toList
  have pieces : hyphenPieces "a--b---c-".toList =
      ["a-".toList, "-b-".toList, "-".toList, "-c-".toList] := by decide
  rw [pieces] at spread
  exact ⟨spread, whole, pieces, padded (by decide)⟩

end FlatFile
