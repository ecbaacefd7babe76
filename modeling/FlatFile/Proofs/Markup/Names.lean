/-
  FlatFile/Proofs/Markup/Names.lean
  =================================
  **Names hold nothing that means something to markup.**

  A character of a name is no blank of markup, no quote, no bracket and none of `=`, `/`,
  `&`, `;`; and every text that is not blank is made into a name.  A name that was made keeps
  its characters if a name is made of it again (`nameOf?_stable`): it has no blank at either
  end, since the trimmed text has none and an underscore is none (`trim_nameOf?`).
-/
import FlatFile.Markup.Event
import FlatFile.Markup.Name
import FlatFile.Proofs.Text.Trimming
import FlatFile.Text.Numeral

namespace FlatFile.Markup

theorem ne_of_isNameChar {c d : Char} (named : isNameChar c = true)
    (other : isNameChar d = false) : c ≠ d := by
  rintro rfl
  rw [named] at other
  cases other

theorem isMarkupBlank_of_isNameChar {c : Char} (named : isNameChar c = true) :
    isMarkupBlank c = false := by
  simp only [isMarkupBlank, Bool.or_eq_false_iff, beq_eq_false_iff_ne]
  exact ⟨⟨⟨ne_of_isNameChar named (by decide), ne_of_isNameChar named (by decide)⟩,
    ne_of_isNameChar named (by decide)⟩, ne_of_isNameChar named (by decide)⟩

theorem isNameChar_of_isNameStart {c : Char} (start : isNameStart c = true) :
    isNameChar c = true := by
  rw [isNameChar, start, Bool.true_or]

/-- A name is a character that starts names and then characters of names. -/
theorem isName_iff {name : List Char} :
    isName name = true ↔
      ∃ c rest, name = c :: rest ∧ isNameStart c = true ∧ ∀ d ∈ name, isNameChar d = true := by
  cases name with
  | nil => simp [isName]
  | cons c rest =>
    simp only [isName, Bool.and_eq_true, List.all_eq_true, List.mem_cons, List.cons.injEq]
    constructor
    · rintro ⟨start, others⟩
      refine ⟨c, rest, ⟨rfl, rfl⟩, start, ?_⟩
      rintro d (rfl | inside)
      · exact isNameChar_of_isNameStart start
      · exact others d inside
    · rintro ⟨_, _, ⟨rfl, rfl⟩, start, named⟩
      exact ⟨start, fun d inside => named d (.inr inside)⟩

theorem isNameChar_of_mem {name : List Char} (named : isName name = true) {c : Char}
    (inside : c ∈ name) : isNameChar c = true := by
  rcases isName_iff.mp named with ⟨_, _, -, -, all⟩
  exact all c inside

theorem isName_append {name more : List Char} (named : isName name = true)
    (named' : ∀ c ∈ more, isNameChar c = true) : isName (name ++ more) = true := by
  rcases isName_iff.mp named with ⟨c, rest, rfl, start, all⟩
  refine isName_iff.mpr ⟨c, rest ++ more, rfl, start, ?_⟩
  intro d inside
  rcases List.mem_append.mp inside with inside | inside
  · exact all d inside
  · exact named' d inside

theorem isNameChar_of_isDigit {c : Char} (digit : c.isDigit = true) : isNameChar c = true := by
  have range : 48 ≤ c.toNat ∧ c.toNat ≤ 57 := by
    simp only [Char.isDigit, ge_iff_le, Bool.and_eq_true, decide_eq_true_eq,
      UInt32.le_iff_toNat_le] at digit
    exact digit
  have inside : inRanges nameRestRanges c = true :=
    List.any_eq_true.mpr ⟨(0x30, 0x39), by decide, by simpa using range⟩
  rw [isNameChar, inside, Bool.or_true]

theorem isNameChar_of_mem_decimal {n : Nat} {c : Char} (inside : c ∈ Text.decimal n) :
    isNameChar c = true :=
  isNameChar_of_isDigit (Nat.isDigit_of_mem_toDigits (by decide) (by decide) inside)

/-! ### Names made from texts -/

variable {text name : List Char}

theorem isNameChar_of_mem_replaceUnnamable {c : Char} (inside : c ∈ replaceUnnamable text) :
    isNameChar c = true := by
  rcases List.mem_map.mp inside with ⟨d, -, rfl⟩
  by_cases named : isNameChar d = true
  · rw [if_pos named]
    exact named
  · rw [if_neg named]
    decide

/-- Characters of names are left alone. -/
theorem replaceUnnamable_eq_self (named : ∀ c ∈ text, isNameChar c = true) :
    replaceUnnamable text = text := by
  have kept : ∀ c ∈ text, (if isNameChar c then c else '_') = c := by
    intro c inside
    rw [if_pos (named c inside)]
  exact (List.map_congr_left kept).trans (List.map_id text)

/-- The name made from a text, the two ways in which it can begin told apart. -/
theorem nameOf?_eq_some_iff :
    nameOf? text = some name ↔
      ∃ c rest, replaceUnnamable (Text.trim text) = c :: rest
        ∧ ((isNameStart c = true ∧ name = c :: rest)
          ∨ (isNameStart c = false ∧ name = '_' :: c :: rest)) := by
  rw [nameOf?]
  cases replaceUnnamable (Text.trim text) with
  | nil => simp
  | cons c rest =>
    cases start : isNameStart c <;> simp [start, @eq_comm _ name]

/-- **Every name made from a text is one.** -/
theorem isName_nameOf? (made : nameOf? text = some name) : isName name = true := by
  obtain ⟨c, rest, replaced, ⟨start, rfl⟩ | ⟨-, rfl⟩⟩ := nameOf?_eq_some_iff.mp made
  · refine isName_iff.mpr ⟨c, rest, rfl, start, ?_⟩
    intro d inside
    exact isNameChar_of_mem_replaceUnnamable (replaced ▸ inside)
  · refine isName_iff.mpr ⟨'_', c :: rest, rfl, by decide, ?_⟩
    intro d inside
    rcases List.mem_cons.mp inside with rfl | inside
    · decide
    · exact isNameChar_of_mem_replaceUnnamable (replaced ▸ inside)

theorem nameOf?_eq_none_iff : nameOf? text = none ↔ Text.isBlank text = true := by
  rw [← Text.trim_eq_nil_iff, nameOf?]
  cases trimmed : Text.trim text with
  | nil => simp [replaceUnnamable]
  | cons c rest => simp [replaceUnnamable]

/-- A name is at most the underscore longer than the trimmed text. -/
theorem length_nameOf? (made : nameOf? text = some name) :
    name.length = (Text.trim text).length ∨ name.length = (Text.trim text).length + 1 := by
  have kept : (replaceUnnamable (Text.trim text)).length = (Text.trim text).length :=
    List.length_map _
  obtain ⟨c, rest, replaced, ⟨-, rfl⟩ | ⟨-, rfl⟩⟩ := nameOf?_eq_some_iff.mp made
  · rw [← kept, replaced]
    exact .inl rfl
  · rw [← kept, replaced]
    exact .inr rfl

theorem nameOf?_of_isName (named : isName (Text.trim text) = true) :
    nameOf? text = some (Text.trim text) := by
  obtain ⟨c, rest, trimmed, start, all⟩ := isName_iff.mp named
  apply nameOf?_eq_some_iff.mpr
  rw [replaceUnnamable_eq_self all]
  exact ⟨c, rest, trimmed, .inl ⟨start, trimmed⟩⟩

/-- One blank can stand in a name, U+1680, but never at an end of one that was made: what is
    at the ends of the trimmed text is not blank, nor is an underscore. -/
theorem trim_nameOf? (made : nameOf? text = some name) : Text.trim name = name := by
  obtain ⟨first, last⟩ := Text.trim_eq_self_iff.mp (Text.trim_trim text)
  have ink : ∀ {c : Char}, Text.isBlankChar c = false →
      Text.isBlankChar (if isNameChar c then c else '_') = false := by
    intro c ink
    split
    · exact ink
    · decide
  have first' : ∀ c ∈ (replaceUnnamable (Text.trim text)).head?, Text.isBlankChar c = false := by
    intro c begins
    rw [replaceUnnamable, List.head?_map] at begins
    obtain ⟨d, begins', rfl⟩ := Option.map_eq_some_iff.mp begins
    exact ink (first d begins')
  have last' : ∀ c ∈ (replaceUnnamable (Text.trim text)).getLast?, Text.isBlankChar c = false := by
    intro c ends
    rw [replaceUnnamable, List.getLast?_map] at ends
    obtain ⟨d, ends', rfl⟩ := Option.map_eq_some_iff.mp ends
    exact ink (last d ends')
  obtain ⟨c, rest, replaced, ⟨-, rfl⟩ | ⟨-, rfl⟩⟩ := nameOf?_eq_some_iff.mp made
  · rw [replaced] at first' last'
    exact Text.trim_eq_self_iff.mpr ⟨first', last'⟩
  · rw [replaced] at last'
    apply Text.trim_eq_self_iff.mpr
    constructor
    · intro d begins
      cases begins
      decide
    · rw [List.getLast?_cons_cons]
      exact last'

/-- **Names made from texts are valid and stable.**  There is a name for exactly the texts
    that are not blank.  It is a name without a colon, as long as the trimmed text or one
    character longer, and making a name of it again gives it back; a trimmed text that is a
    name is taken as it is. -/
theorem nameOf?_stable (text : List Char) :
    (nameOf? text = none ↔ Text.isBlank text = true)
      ∧ (∀ name, nameOf? text = some name →
          isName name = true
            ∧ ':' ∉ name
            ∧ (name.length = (Text.trim text).length
              ∨ name.length = (Text.trim text).length + 1)
            ∧ nameOf? name = some name)
      ∧ (isName (Text.trim text) = true → nameOf? text = some (Text.trim text)) := by
  refine ⟨nameOf?_eq_none_iff, ?_, nameOf?_of_isName⟩
  intro name made
  have named : isName name = true := isName_nameOf? made
  have kept : Text.trim name = name := trim_nameOf? made
  refine ⟨named, ?_, length_nameOf? made, ?_⟩
  · intro colon
    exact ne_of_isNameChar (isNameChar_of_mem named colon) (by decide) rfl
  · have again : nameOf? name = some (Text.trim name) := nameOf?_of_isName (kept.symm ▸ named)
    rwa [kept] at again

/-- A name of blanks, digits, a colon, a hyphen and letters beyond ASCII, and one that is a
    name already between the blanks around it. -/
theorem nameOf?_stable_mixed :
    nameOf? "\u1680 7\u1680é:-b ".toList = some "_7\u1680é_-b".toList
      ∧ nameOf? "_7\u1680é_-b".toList = some "_7\u1680é_-b".toList
      ∧ nameOf? " naïve.name ".toList = some "naïve.name".toList := by
  have made : nameOf? "\u1680 7\u1680é:-b ".toList = some "_7\u1680é_-b".toList := by decide
  have again := ((nameOf?_stable "\u1680 7\u1680é:-b ".toList).2.1 _ made).2.2.2
  have taken := (nameOf?_stable " naïve.name ".toList).2.2 (by decide)
  exact ⟨made, again, taken⟩

end FlatFile.Markup
