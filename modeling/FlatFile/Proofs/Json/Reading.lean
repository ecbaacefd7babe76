/-
  FlatFile/Proofs/Json/Reading.lean
  =================================
  **A JSON value that is written is read back.**

  A written value has no blanks, and what stands behind it in a text is a comma, a
  closing bracket or nothing (`EndsValue`), none of which goes on with a number.  Each
  character of a string is read back as one piece (`spells_printChar`), and a number in
  decimal form begins with a zero only if it is zero.

  Reading takes fuel for its steps, and a value takes no more of it than it has characters.
  `Rereads` is the induction on the fuel, with one lemma each for values, items and
  members; `read?_print` is its result.  All that writing can lose is an integer beyond
  64 bits, which is read as a number of another kind (`Fits`).
-/
import FlatFile.Json.Print
import FlatFile.Json.Read
import FlatFile.Proofs.Text.Numerals
import Mathlib.Data.Option.Basic

namespace FlatFile.Json

/-! ### Strings -/

theorem pieces?_escaped {letter c : Char} (other : letter ≠ 'u') (means : escaped? letter = some c)
    (rest : List Char) :
    pieces? ('\\' :: letter :: rest) =
      (pieces? rest).map fun (pieces, rest) => (.char c :: pieces, rest) := by
  rw [pieces?, means]
  · cases pieces? rest <;> rfl
  · intro _ _ _ _ _ same
    exact absurd same other

theorem pieces?_unit {a b c d : Char} {n : Nat} (means : unit? [a, b, c, d] = some n)
    (rest : List Char) :
    pieces? ('\\' :: 'u' :: a :: b :: c :: d :: rest) =
      (pieces? rest).map fun (pieces, rest) => (.unit n :: pieces, rest) := by
  rw [pieces?, means]
  cases pieces? rest <;> rfl

theorem pieces?_plain {c : Char} (quote : c ≠ '"') (backslash : c ≠ '\\') (high : ¬ c.toNat < 0x20)
    (rest : List Char) :
    pieces? (c :: rest) = (pieces? rest).map fun (pieces, rest) => (.char c :: pieces, rest) := by
  rw [pieces?, if_neg (by simp [high, backslash])]
  · exact quote
  · intro _ _ _ _ _ same
    exact absurd same backslash
  · intro _ _ same
    exact absurd same backslash

theorem combine?_unit {n : Nat} (low : n < 0xD800) (pieces : List Piece) :
    combine? (.unit n :: pieces) = (combine? pieces).map (Char.ofNat n :: ·) := by
  have valid : n.isValidChar := .inl low
  rcases pieces with _ | ⟨_ | next, pieces⟩
  · simp only [combine?, if_pos valid]
  · simp only [combine?, if_pos valid]
  · rw [combine?, if_neg (by omega), if_pos valid]

/-- A control character as an escape; the first two digits are zeros. -/
theorem escapeUnit_of_lt {n : Nat} (low : n < 0x20) :
    escapeUnit n = ['\\', 'u', '0', '0', (n / 16).digitChar, (n % 16).digitChar]
      ∧ unit? ['0', '0', (n / 16).digitChar, (n % 16).digitChar] = some n := by
  have all : ∀ n < 0x20,
      escapeUnit n = ['\\', 'u', '0', '0', (n / 16).digitChar, (n % 16).digitChar]
        ∧ unit? ['0', '0', (n / 16).digitChar, (n % 16).digitChar] = some n := by decide
  exact all n low

/-- A text inside a string is read as one piece, which stands for a character. -/
def Spells (written : List Char) (c : Char) : Prop :=
  ∃ piece,
    (∀ rest, pieces? (written ++ rest) =
      (pieces? rest).map fun (pieces, rest) => (piece :: pieces, rest))
    ∧ ∀ pieces, combine? (piece :: pieces) = (combine? pieces).map (c :: ·)

theorem spells_escaped {letter c : Char} (other : letter ≠ 'u')
    (means : escaped? letter = some c) : Spells ['\\', letter] c :=
  ⟨.char c, pieces?_escaped other means, fun _ => rfl⟩

theorem spells_escapeUnit {c : Char} (low : c.toNat < 0x20) : Spells (escapeUnit c.toNat) c := by
  obtain ⟨written, means⟩ := escapeUnit_of_lt low
  refine ⟨.unit c.toNat, ?_, ?_⟩
  · intro rest
    rw [written]
    exact pieces?_unit means rest
  · intro pieces
    rw [combine?_unit (by omega), Char.ofNat_toNat]

/-- **Every character is read back as one piece**, escaped or not. -/
theorem spells_printChar (c : Char) : Spells (printChar c) c := by
  -- The escapes with a letter come first, the digits of a code unit after them.
  unfold printChar
  split
  · rename_i same
    subst same
    exact spells_escaped (by decide) rfl
  split
  · rename_i same
    subst same
    exact spells_escaped (by decide) rfl
  split
  · rename_i same
    subst same
    exact spells_escaped (by decide) rfl
  split
  · rename_i same
    subst same
    exact spells_escaped (by decide) rfl
  split
  · rename_i same
    subst same
    exact spells_escaped (by decide) rfl
  split
  · rename_i same
    subst same
    exact spells_escaped (by decide) rfl
  split
  · rename_i same
    subst same
    exact spells_escaped (by decide) rfl
  split
  · rename_i low
    exact spells_escapeUnit low
  · rename_i quote backslash _ _ _ _ _ high
    exact ⟨.char c, pieces?_plain quote backslash high, fun _ => rfl⟩

theorem exists_pieces (text rest : List Char) :
    ∃ pieces, pieces? (text.flatMap printChar ++ '"' :: rest) = some (pieces, rest)
      ∧ combine? pieces = some text := by
  induction text with
  | nil => exact ⟨[], by rw [List.flatMap_nil, List.nil_append, pieces?], rfl⟩
  | cons c text ih =>
    obtain ⟨pieces, read, stands⟩ := ih
    obtain ⟨piece, one, stands_one⟩ := spells_printChar c
    refine ⟨piece :: pieces, ?_, ?_⟩
    · rw [List.flatMap_cons, List.append_assoc, one, read]
      rfl
    · rw [stands_one, stands]
      rfl

/-- **A string is read back**, half a surrogate pair as no text again. -/
theorem string?_printText (content : JsonText) (rest : List Char) :
    ∃ written, printText content ++ rest = '"' :: written ∧
      string? written = some (content, rest) := by
  cases content with
  | none => exact ⟨escapeUnit 0xD800 ++ '"' :: rest, rfl, rfl⟩
  | some text =>
    obtain ⟨pieces, read, stands⟩ := exists_pieces text.toList rest
    refine ⟨text.toList.flatMap printChar ++ '"' :: rest, by simp [printText], ?_⟩
    simp only [string?, read, stands, Option.map_some, String.ofList_toList]

/-! ### Numbers -/

/-- What may stand behind a value: nothing, or a mark that goes on with no number. -/
def EndsValue (rest : List Char) : Prop := ∀ c ∈ rest.head?, c = ',' ∨ c = ']' ∨ c = '\x7d'

theorem EndsValue.nil : EndsValue [] := by
  intro c first
  cases first

theorem EndsValue.comma (rest : List Char) : EndsValue (',' :: rest) := by
  rintro c ⟨⟩
  exact .inl rfl

theorem EndsValue.bracket (rest : List Char) : EndsValue (']' :: rest) := by
  rintro c ⟨⟩
  exact .inr (.inl rfl)

theorem EndsValue.brace (rest : List Char) : EndsValue ('\x7d' :: rest) := by
  rintro c ⟨⟩
  exact .inr (.inr rfl)

theorem EndsValue.noDigit {rest : List Char} (ends : EndsValue rest) :
    ∀ c ∈ rest.head?, c.isDigit = false := by
  intro c first
  rcases ends c first with rfl | rfl | rfl <;> decide

theorem digits?_append {digits rest : List Char} (some_digit : digits ≠ [])
    (all : ∀ c ∈ digits, c.isDigit = true) (apart : ∀ c ∈ rest.head?, c.isDigit = false) :
    digits? (digits ++ rest) = some (digits, rest) := by
  have stop : rest.takeWhile Char.isDigit = [] ∧ rest.dropWhile Char.isDigit = rest := by
    cases rest with
    | nil => exact ⟨rfl, rfl⟩
    | cons c rest =>
      have other : ¬ c.isDigit = true := by simp [apart c rfl]
      exact ⟨List.takeWhile_cons_of_neg other, List.dropWhile_cons_of_neg other⟩
  rw [digits?, List.takeWhile_append_of_pos all, List.dropWhile_append_of_pos all, stop.1, stop.2,
    List.append_nil]
  simp [some_digit]

/-- A numeral without leading zeros begins with a zero only if it is that of zero. -/
theorem head?_decimal (n : Nat) : Text.decimal n = ['0'] ∨ (Text.decimal n).head? ≠ some '0' := by
  induction n using Nat.strongRecOn with
  | ind n ih =>
    rw [Text.decimal, Nat.toDigits_eq_if (by decide)]
    split
    · rename_i small
      by_cases zero : n = 0
      · exact .inl (by rw [zero]; rfl)
      · exact .inr (by simpa using zero)
    · rename_i large
      -- A number with a digit before its last one is not zero before it either.
      have front : (Text.decimal (n / 10)).head? ≠ some '0' := by
        rcases ih (n / 10) (by omega) with zero | other
        · have : n / 10 = 0 := Text.decimal_injective zero
          omega
        · exact other
      refine .inr ?_
      rw [List.head?_append, ← Text.decimal]
      cases first : (Text.decimal (n / 10)).head? with
      | none => exact absurd (List.head?_eq_none_iff.mp first) Nat.toDigits_ne_nil
      | some c =>
        rw [first] at front
        exact front

theorem fraction?_of_ends {rest : List Char} (ends : EndsValue rest) :
    fraction? rest = some (none, rest) := by
  unfold fraction?
  split
  · have point := ends '.' rfl
    simp at point
  · rfl

theorem exponent?_of_ends {rest : List Char} (ends : EndsValue rest) :
    exponent? rest = some (none, rest) := by
  cases rest with
  | nil => rfl
  | cons c rest =>
    have other : ¬ (c = 'e' ∨ c = 'E') := by
      rcases ends c rfl with rfl | rfl | rfl <;> decide
    simp only [exponent?, if_neg other]

/-- **A number is read back from its decimal form**, a negative one after its sign. -/
theorem number?_decimal {negative : Bool} {n : Nat} {rest : List Char} (ends : EndsValue rest)
    (fits : if negative then 0 < n ∧ n ≤ greatestMagnitude else n < Text.wordBound) :
    number? negative (Text.decimal n ++ rest) =
      some (.integer (if negative then -(n : Int) else n), rest) := by
  have whole : digits? (Text.decimal n ++ rest) = some (Text.decimal n, rest) :=
    digits?_append Nat.toDigits_ne_nil (fun _ inside => Text.isDigit_of_mem_decimal inside)
      ends.noDigit
  have small : n < Text.wordBound := by
    cases negative with
    | false => exact fits
    | true => exact Nat.lt_of_le_of_lt fits.2 (by decide)
  have numeral : guard (Text.decimal n = ['0'] ∨ (Text.decimal n).head? ≠ some '0') = some () :=
    if_pos (head?_decimal n)
  rw [number?, whole]
  simp only [Option.bind_eq_bind, Option.bind_some, numeral, fraction?_of_ends ends,
    exponent?_of_ends ends, Text.natural?_decimal small]
  cases negative with
  | false => rfl
  | true =>
    have held : 0 < n ∧ n ≤ greatestMagnitude := fits
    simp [held]

/-! ### Values -/

/-- **Every integer in a value fits 64 bits**, with a sign if it is negative. -/
inductive Fits : Json → Prop where
  | null : Fits .null
  | bool (value : Bool) : Fits (.bool value)
  | integer {value : Int} (low : -greatestMagnitude ≤ value) (high : value < Text.wordBound) :
      Fits (.integer value)
  | real (finite : Bool) : Fits (.real finite)
  | string (content : JsonText) : Fits (.string content)
  | array {items : List Json} (all : ∀ item ∈ items, Fits item) : Fits (.array items)
  | object {members : List (JsonText × Json)} (all : ∀ member ∈ members, Fits member.2) :
      Fits (.object members)

theorem skipBlanks_cons {c : Char} (ink : isBlank c = false) (rest : List Char) :
    skipBlanks (c :: rest) = c :: rest :=
  List.dropWhile_cons_of_neg (by simp [ink])

/-- What is printed within some fuel is read back with that fuel. -/
structure Rereads (fuel : Nat) : Prop where
  value : ∀ {json : Json} {rest : List Char}, json.Fits → EndsValue rest →
    (print json).length ≤ fuel → valueWith? fuel (print json ++ rest) = some (json, rest)
  items : ∀ {item : Json} {items : List Json} {rest : List Char},
    (∀ inner ∈ item :: items, inner.Fits) → EndsValue rest →
    (print item ++ printItems items).length ≤ fuel →
    itemsWith? fuel (print item ++ printItems items ++ rest) = some (item :: items, rest)
  members : ∀ {key : JsonText} {value : Json} {members : List (JsonText × Json)}
    {rest : List Char}, (∀ member ∈ (key, value) :: members, member.2.Fits) → EndsValue rest →
    (printText key ++ ':' :: print value ++ printMembers members).length ≤ fuel →
    membersWith? fuel (printText key ++ ':' :: print value ++ printMembers members ++ rest) =
      some ((key, value) :: members, rest)

variable {fuel : Nat}

theorem isBlank_of_isDigit {c : Char} (digit : c.isDigit = true) : isBlank c = false := by
  simp only [isBlank, Bool.or_eq_false_iff, beq_eq_false_iff_ne]
  refine ⟨⟨⟨?_, ?_⟩, ?_⟩, ?_⟩ <;> (rintro rfl; exact absurd digit (by decide))

theorem exists_decimal_cons (n : Nat) :
    ∃ c more, Text.decimal n = c :: more ∧ c.isDigit = true := by
  have nonempty : Text.decimal n ≠ [] := Nat.toDigits_ne_nil
  obtain ⟨c, more, eq⟩ := List.exists_cons_of_ne_nil nonempty
  have inside : c ∈ Text.decimal n := eq ▸ List.mem_cons_self
  exact ⟨c, more, eq, Text.isDigit_of_mem_decimal inside⟩

theorem valueWith?_of_isDigit {c : Char} (digit : c.isDigit = true) (rest : List Char) :
    valueWith? (fuel + 1) (c :: rest) = number? false (c :: rest) := by
  have other {d : Char} (mark : d.isDigit = false) : c ≠ d := by
    rintro rfl
    exact absurd digit (by simp [mark])
  have no_word {d : Char} (mark : d.isDigit = false) (word : List Char) :
      Text.after? (d :: word) (c :: rest) = none := by
    rw [Text.after?, if_neg (other mark).symm]
  have null : Text.after? "null".toList (c :: rest) = none := @no_word 'n' rfl _
  have true_ : Text.after? "true".toList (c :: rest) = none := @no_word 't' rfl _
  have false_ : Text.after? "false".toList (c :: rest) = none := @no_word 'f' rfl _
  rw [valueWith?, skipBlanks_cons (isBlank_of_isDigit digit)]
  split
  · rename_i same
    exact absurd (List.cons.inj same).1 (other rfl)
  · rename_i same
    exact absurd (List.cons.inj same).1 (other rfl)
  · rename_i same
    exact absurd (List.cons.inj same).1 (other rfl)
  · rename_i same
    exact absurd (List.cons.inj same).1 (other rfl)
  · simp only [null, true_, false_]

/-- A written value begins with neither a blank nor the end of an array. -/
theorem exists_print_cons (json : Json) :
    ∃ c more, print json = c :: more ∧ isBlank c = false ∧ c ≠ ']' := by
  cases json with
  | null => exact ⟨_, _, rfl, by decide⟩
  | bool value => cases value <;> exact ⟨_, _, rfl, by decide⟩
  | integer value =>
    cases value with
    | ofNat n =>
      obtain ⟨c, more, eq, digit⟩ := exists_decimal_cons n
      refine ⟨c, more, eq, isBlank_of_isDigit digit, ?_⟩
      rintro rfl
      exact absurd digit (by decide)
    | negSucc n => exact ⟨_, _, rfl, by decide⟩
  | real finite => cases finite <;> exact ⟨_, _, rfl, by decide⟩
  | string content => cases content <;> exact ⟨_, _, rfl, by decide⟩
  | array items => cases items <;> exact ⟨_, _, rfl, by decide⟩
  | object members => cases members <;> exact ⟨_, _, rfl, by decide⟩

theorem length_print_pos (json : Json) : 0 < (print json).length := by
  obtain ⟨c, more, eq, -⟩ := exists_print_cons json
  simp [eq]

theorem endsValue_printItems (items : List Json) (rest : List Char) :
    EndsValue (printItems items ++ rest) := by
  cases items with
  | nil => exact .bracket rest
  | cons item items => exact .comma _

theorem endsValue_printMembers (members : List (JsonText × Json)) (rest : List Char) :
    EndsValue (printMembers members ++ rest) := by
  cases members with
  | nil => exact .brace rest
  | cons member members => exact .comma _

theorem valueWith?_integer {value : Int} {rest : List Char} (ends : EndsValue rest)
    (low : -greatestMagnitude ≤ value) (high : value < Text.wordBound) :
    valueWith? (fuel + 1) (Text.signedDecimal value ++ rest) = some (.integer value, rest) := by
  cases value with
  | ofNat n =>
    obtain ⟨c, more, eq, digit⟩ := exists_decimal_cons n
    have small : n < Text.wordBound := Int.ofNat_lt.mp high
    have read := @number?_decimal false n rest ends (by simpa using small)
    rw [eq, List.cons_append] at read
    rw [Text.signedDecimal, eq, List.cons_append, valueWith?_of_isDigit digit, read]
    rfl
  | negSucc n =>
    have read := @number?_decimal true (n + 1) rest ends (by simp; omega)
    rw [Text.signedDecimal, List.cons_append, valueWith?, skipBlanks_cons (by decide)]
    exact read

theorem valueWith?_real {rest : List Char} (ends : EndsValue rest) (finite : Bool) :
    valueWith? (fuel + 1) (print (.real finite) ++ rest) = some (.real finite, rest) := by
  cases finite with
  | true =>
    -- 0.0
    have whole : digits? ('0' :: '.' :: '0' :: rest) = some (['0'], '.' :: '0' :: rest) :=
      @digits?_append ['0'] _ (by decide) (List.all_eq_true.mp rfl) (by rintro c ⟨⟩; rfl)
    have digits : digits? ('0' :: rest) = some (['0'], rest) :=
      @digits?_append ['0'] _ (by decide) (List.all_eq_true.mp rfl) ends.noDigit
    have fraction : fraction? ('.' :: '0' :: rest) = some (some ['0'], rest) := by
      rw [fraction?, digits]
      rfl
    have read : number? false ('0' :: '.' :: '0' :: rest) = some (.real true, rest) := by
      rw [number?, whole]
      simp only [Option.bind_eq_bind, Option.bind_some, fraction, exponent?_of_ends ends]
      rfl
    exact (valueWith?_of_isDigit rfl _).trans read
  | false =>
    -- 1e999
    have whole : digits? ('1' :: 'e' :: '9' :: '9' :: '9' :: rest) =
        some (['1'], 'e' :: '9' :: '9' :: '9' :: rest) :=
      @digits?_append ['1'] _ (by decide) (List.all_eq_true.mp rfl) (by rintro c ⟨⟩; rfl)
    have digits : digits? ('9' :: '9' :: '9' :: rest) = some (['9', '9', '9'], rest) :=
      @digits?_append ['9', '9', '9'] _ (by decide) (List.all_eq_true.mp rfl) ends.noDigit
    have fraction : fraction? ('e' :: '9' :: '9' :: '9' :: rest) =
        some (none, 'e' :: '9' :: '9' :: '9' :: rest) := rfl
    have exponent : exponent? ('e' :: '9' :: '9' :: '9' :: rest) = some (some 999, rest) := by
      have no_sign : exponent? ('e' :: '9' :: '9' :: '9' :: rest) =
          (digits? ('9' :: '9' :: '9' :: rest)).map fun found =>
            (some ((wordOf 0 found.1).1 : Int), found.2) := rfl
      rw [no_sign, digits]
      rfl
    have read : number? false ('1' :: 'e' :: '9' :: '9' :: '9' :: rest) =
        some (.real false, rest) := by
      rw [number?, whole]
      simp only [Option.bind_eq_bind, Option.bind_some, fraction, exponent]
      rfl
    exact (valueWith?_of_isDigit rfl _).trans read

/-! ### Steps of the reading -/

theorem valueWith?_array {c : Char} (ink : isBlank c = false) (no_end : c ≠ ']')
    (rest : List Char) :
    valueWith? (fuel + 1) ('[' :: c :: rest) =
      (itemsWith? fuel (c :: rest)).map fun (items, rest) => (.array items, rest) := by
  rw [valueWith?, @skipBlanks_cons '[' rfl]
  simp only [skipBlanks_cons ink]
  split
  · rename_i same
    exact absurd (List.cons.inj same).1 no_end
  · rfl

theorem valueWith?_object (rest : List Char) :
    valueWith? (fuel + 1) ('\x7b' :: '"' :: rest) =
      (membersWith? fuel ('"' :: rest)).map fun (members, rest) => (.object members, rest) := by
  rw [valueWith?, @skipBlanks_cons '\x7b' rfl]
  simp only [@skipBlanks_cons '"' rfl]
  rfl

theorem Rereads.value_succ (before : Rereads fuel) {json : Json} {rest : List Char}
    (fits : json.Fits) (ends : EndsValue rest) (enough : (print json).length ≤ fuel + 1) :
    valueWith? (fuel + 1) (print json ++ rest) = some (json, rest) := by
  cases fits with
  | null => rfl
  | bool value => cases value <;> rfl
  | integer low high => exact valueWith?_integer ends low high
  | real finite => exact valueWith?_real ends finite
  | string content =>
    obtain ⟨written, opens, read⟩ := string?_printText content rest
    rw [print, opens, valueWith?, @skipBlanks_cons '"' rfl]
    simp only [read, Option.map_some]
  | @array items all =>
    cases items with
    | nil => rfl
    | cons item items =>
      have inside := @before.items item items rest all ends (by simpa [print] using enough)
      obtain ⟨c, more, eq, ink, no_end⟩ := exists_print_cons item
      rw [eq, List.cons_append, List.cons_append] at inside
      rw [print, eq, List.cons_append, List.cons_append, List.cons_append, List.cons_append,
        valueWith?_array ink no_end, inside]
      rfl
  | @object members all =>
    cases members with
    | nil => rfl
    | cons member members =>
      obtain ⟨key, value⟩ := member
      have inside := @before.members key value members rest all ends (by simpa [print] using enough)
      obtain ⟨written, opens, -⟩ :=
        string?_printText key (':' :: print value ++ printMembers members ++ rest)
      have text : printText key ++ ':' :: print value ++ printMembers members ++ rest
          = '"' :: written := by
        rw [← opens]
        simp only [List.append_assoc]
      rw [text] at inside
      rw [print, List.cons_append, List.cons_append, List.cons_append, text, valueWith?_object,
        inside]
      rfl

theorem Rereads.items_succ (before : Rereads fuel) {item : Json} {items : List Json}
    {rest : List Char} (fits : ∀ inner ∈ item :: items, inner.Fits) (ends : EndsValue rest)
    (enough : (print item ++ printItems items).length ≤ fuel + 1) :
    itemsWith? (fuel + 1) (print item ++ printItems items ++ rest) =
      some (item :: items, rest) := by
  rcases List.forall_mem_cons.mp fits with ⟨here, others⟩
  have closed : 0 < (printItems items).length := by cases items <;> simp [printItems]
  rw [List.length_append] at enough
  have first := before.value here (endsValue_printItems items rest) (by omega)
  rw [itemsWith?, List.append_assoc, first]
  cases items with
  | nil => rfl
  | cons second items =>
    have some_text : 0 < (print item).length := length_print_pos item
    have next := @before.items second items rest others ends
      (by simp only [printItems, List.length_append, List.length_cons] at enough ⊢; omega)
    simp only [printItems, List.cons_append, @skipBlanks_cons ',' rfl, next, Option.map_some]

theorem Rereads.members_succ (before : Rereads fuel) {key : JsonText} {value : Json}
    {members : List (JsonText × Json)} {rest : List Char}
    (fits : ∀ member ∈ (key, value) :: members, member.2.Fits) (ends : EndsValue rest)
    (enough : (printText key ++ ':' :: print value ++ printMembers members).length ≤ fuel + 1) :
    membersWith? (fuel + 1)
        (printText key ++ ':' :: print value ++ printMembers members ++ rest) =
      some ((key, value) :: members, rest) := by
  rcases List.forall_mem_cons.mp fits with ⟨here, others⟩
  simp only [List.length_append, List.length_cons] at enough
  obtain ⟨written, opens, read⟩ :=
    string?_printText key (':' :: (print value ++ (printMembers members ++ rest)))
  have first : valueWith? fuel (print value ++ (printMembers members ++ rest)) =
      some (value, printMembers members ++ rest) :=
    before.value here (endsValue_printMembers members rest) (by omega)
  have text : printText key ++ ':' :: print value ++ printMembers members ++ rest
      = '"' :: written := by
    rw [← opens]
    simp only [List.append_assoc, List.cons_append]
  rw [text, membersWith?, @skipBlanks_cons '"' rfl]
  simp only [read, @skipBlanks_cons ':' rfl, first]
  cases members with
  | nil => rfl
  | cons second members =>
    obtain ⟨key', value'⟩ := second
    have next := @before.members key' value' members rest others ends
      (by simp only [printMembers, List.length_append, List.length_cons] at enough ⊢; omega)
    simp only [List.append_assoc, List.cons_append] at next
    simp only [printMembers, List.append_assoc, List.cons_append, @skipBlanks_cons ',' rfl, next,
      Option.map_some]

theorem rereads (fuel : Nat) : Rereads fuel := by
  induction fuel with
  | zero =>
    constructor
    · intro json rest _ _ enough
      have := length_print_pos json
      omega
    · intro item items rest _ _ enough
      have := length_print_pos item
      rw [List.length_append] at enough
      omega
    · intro key value members rest _ _ enough
      simp only [List.length_append, List.length_cons] at enough
      omega
  | succ fuel ih => exact ⟨ih.value_succ, ih.items_succ, ih.members_succ⟩

/-- **A value is read back from its text**, if its integers fit. -/
theorem read?_print {json : Json} (fits : json.Fits) : read? (print json) = some json := by
  have read := (rereads (2 * (print json).length + 2)).value fits .nil (by omega)
  rw [List.append_nil] at read
  rw [read?, read]
  rfl

end FlatFile.Json
