/-
  FlatFile/Proofs/Markup/Ready.lean
  =================================
  **Text that can be put into a document as it is.**

  Such text holds no `<`, and an ampersand in it only starts a reference to a character; as
  the value of an attribute it holds no double quote either (`Ready`).  This is what a
  reader needs to take it as one value: it ends where it should, and every reference in it
  is resolved (`ready_iff`).

  Escaped text is ready.  What is ready stays so when parts are put together, and in every
  charset: a character that this lacks becomes a reference, and the references that are
  there are ASCII (`Ready.conveyed`).
-/
import FlatFile.Proofs.Charset.Output
import FlatFile.Proofs.Markup.Spelling

namespace FlatFile.Markup

/-- **Text that is ready for a document**, in the quotes of an attribute if `quoted`. -/
inductive Ready (quoted : Bool) : List Char → Prop where
  | nil : Ready quoted []
  | char {c : Char} {rest : List Char} (plain : c ≠ '<' ∧ c ≠ '&')
      (unquoted : quoted = true → c ≠ '"') (more : Ready quoted rest) : Ready quoted (c :: rest)
  | reference {name rest : List Char} {c : Char} (resolved : resolve 0 name = .ok c)
      (more : Ready quoted rest) : Ready quoted ('&' :: (name ++ ';' :: rest))

/-- A character that means nothing to markup, wherever it stands. -/
def isPlain (c : Char) : Bool := c != '<' && c != '&' && c != '"'

/-! ### The names of references -/

/-- The characters between the ampersand and the semicolon of a reference that can be resolved. -/
def isReferenceChar (c : Char) : Bool :=
  c == '#' || ('0' ≤ c && c ≤ '9') || ('a' ≤ c && c ≤ 'z') || ('A' ≤ c && c ≤ 'Z')

theorem isReferenceChar_of_baseDigit? {base : Nat} {c : Char} {value : Nat}
    (digit : baseDigit? base c = some value) : isReferenceChar c = true := by
  unfold baseDigit? at digit
  simp only [isReferenceChar, Bool.or_eq_true, Bool.and_eq_true, decide_eq_true_eq]
  split at digit
  · rename_i range
    exact .inl (.inl (.inr range))
  · split at digit
    · rename_i range
      exact .inl (.inr ⟨range.1, Char.le_trans range.2 (by decide)⟩)
    · split at digit
      · rename_i range
        exact .inr ⟨range.1, Char.le_trans range.2 (by decide)⟩
      · rw [if_neg (Nat.lt_irrefl base)] at digit
        cases digit

theorem isReferenceChar_of_codeFrom {base sofar number : Nat} {digits : List Char}
    (read : codeFrom base sofar digits = .ok number) :
    ∀ c ∈ digits, isReferenceChar c = true := by
  induction digits generalizing sofar with
  | nil =>
    intro c inside
    cases inside
  | cons c digits ih =>
    rw [codeFrom] at read
    cases digit : baseDigit? base c with
    | none =>
      rw [digit] at read
      cases read
    | some value =>
      simp only [digit] at read
      split at read
      · exact List.forall_mem_cons.mpr ⟨isReferenceChar_of_baseDigit? digit, ih read⟩
      · cases read

theorem isReferenceChar_of_code {base number : Nat} {digits : List Char}
    (read : code base digits = .ok number) : ∀ c ∈ digits, isReferenceChar c = true := by
  cases digits with
  | nil => cases read
  | cons c digits =>
    rw [code] at read
    split at read
    · cases read
    · exact isReferenceChar_of_codeFrom read

theorem isReferenceChar_of_numbered {digits : List Char} {c : Char}
    (resolved : numbered digits = .ok c) : ∀ d ∈ digits, isReferenceChar d = true := by
  unfold numbered at resolved
  dsimp only at resolved
  split at resolved
  · rename_i number read
    split at read
    · exact List.forall_mem_cons.mpr ⟨by decide, isReferenceChar_of_code read⟩
    · exact isReferenceChar_of_code read
  · cases resolved

theorem isReferenceChar_of_entity? {name : List Char} {c : Char} (named : entity? name = some c) :
    ∀ d ∈ name, isReferenceChar d = true := by
  have five : ∀ text ∈ [['l', 't'], ['g', 't'], ['a', 'm', 'p'], ['a', 'p', 'o', 's'],
      ['q', 'u', 'o', 't']], text.all isReferenceChar = true := by decide
  apply List.all_eq_true.mp
  apply five
  apply Classical.byContradiction
  intro other
  simp only [List.mem_cons, List.not_mem_nil, or_false, not_or] at other
  obtain ⟨lt, gt, amp, apos, quot⟩ := other
  rw [entity?, if_neg lt, if_neg gt, if_neg amp, if_neg apos, if_neg quot] at named
  cases named

theorem isReferenceChar_of_resolve {first : Nat} {name : List Char} {c : Char}
    (resolved : resolve first name = .ok c) : ∀ d ∈ name, isReferenceChar d = true := by
  unfold resolve at resolved
  split at resolved
  · exact List.forall_mem_cons.mpr ⟨by decide, isReferenceChar_of_numbered resolved⟩
  · split at resolved
    · rename_i named
      exact isReferenceChar_of_entity? named
    · cases resolved

/-- Where a reference stands makes a difference only to its fault. -/
theorem resolve_of_resolve {first : Nat} {name : List Char} {c : Char}
    (resolved : resolve first name = .ok c) (other : Nat) : resolve other name = .ok c := by
  unfold resolve at resolved ⊢
  split at resolved
  · exact resolved
  · split at resolved
    · rename_i named
      cases resolved
      rfl
    · cases resolved

theorem ne_of_isReferenceChar {c d : Char} (inside : isReferenceChar c = true)
    (other : isReferenceChar d = false) : c ≠ d := by
  rintro rfl
  rw [inside] at other
  cases other

/-- Nothing in a reference means something to markup. -/
theorem plain_of_resolve {first : Nat} {name : List Char} {c : Char}
    (resolved : resolve first name = .ok c) :
    ∀ d ∈ name, d ≠ ';' ∧ d ≠ '&' ∧ d ≠ '<' ∧ d ≠ '"' := by
  intro d inside
  have char := isReferenceChar_of_resolve resolved d inside
  exact ⟨ne_of_isReferenceChar char (by decide), ne_of_isReferenceChar char (by decide),
    ne_of_isReferenceChar char (by decide), ne_of_isReferenceChar char (by decide)⟩

theorem ascii_of_isReferenceChar {c : Char} (inside : isReferenceChar c = true) :
    c.toNat < 0x80 ∧ MultibyteSet.isShift c = false := by
  constructor
  · simp only [isReferenceChar, Bool.or_eq_true, Bool.and_eq_true, decide_eq_true_eq, beq_iff_eq,
      Char.le_def, UInt32.le_iff_toNat_le] at inside
    rcases inside with ((rfl | ⟨-, digit⟩) | ⟨-, lower⟩) | ⟨-, upper⟩
    · decide
    · exact Nat.lt_of_le_of_lt digit (by decide)
    · exact Nat.lt_of_le_of_lt lower (by decide)
    · exact Nat.lt_of_le_of_lt upper (by decide)
  · simp only [MultibyteSet.isShift, Bool.or_eq_false_iff, beq_eq_false_iff_ne]
    exact ⟨⟨ne_of_isReferenceChar inside (by decide), ne_of_isReferenceChar inside (by decide)⟩,
      ne_of_isReferenceChar inside (by decide)⟩

/-! ### Ready text -/

namespace Ready

variable {quoted : Bool} {raw more : List Char}

theorem of_plain (plain : ∀ c ∈ raw, isPlain c = true) : Ready quoted raw := by
  induction raw with
  | nil => exact .nil
  | cons c raw ih =>
    rcases List.forall_mem_cons.mp plain with ⟨here, others⟩
    simp only [isPlain, Bool.and_eq_true, bne_iff_ne] at here
    exact .char here.1 (fun _ => here.2) (ih others)

theorem append (first : Ready quoted raw) (second : Ready quoted more) :
    Ready quoted (raw ++ more) := by
  induction first with
  | nil => exact second
  | char plain unquoted _ ih => exact .char plain unquoted ih
  | reference resolved _ ih =>
    rw [List.cons_append, List.append_assoc, List.cons_append]
    exact .reference resolved ih

/-- What is ready for an attribute is ready for an element. -/
theorem unquoted (ready : Ready true raw) : Ready false raw := by
  induction ready with
  | nil => exact .nil
  | char plain _ _ ih => exact .char plain nofun ih
  | reference resolved _ ih => exact .reference resolved ih

theorem rawText (ready : Ready quoted raw) : RawText raw := by
  induction ready with
  | nil => exact .nil
  | char plain _ _ ih => exact .char plain ih
  | reference resolved _ ih =>
    apply RawText.reference _ ih
    intro c inside
    obtain ⟨semicolon, ampersand, bracket, -⟩ := plain_of_resolve resolved c inside
    exact ⟨semicolon, ampersand, bracket⟩

theorem bracket_not_mem (ready : Ready quoted raw) : '<' ∉ raw := by
  induction ready with
  | nil => exact List.not_mem_nil
  | char plain _ _ ih =>
    rw [List.mem_cons, not_or]
    exact ⟨plain.1.symm, ih⟩
  | reference resolved _ ih =>
    simp only [List.mem_cons, List.mem_append, not_or]
    exact ⟨by decide, fun inside => (plain_of_resolve resolved _ inside).2.2.1 rfl, by decide, ih⟩

theorem quote_not_mem (ready : Ready true raw) : '"' ∉ raw := by
  induction ready with
  | nil => exact List.not_mem_nil
  | char _ unquoted _ ih =>
    rw [List.mem_cons, not_or]
    exact ⟨(unquoted rfl).symm, ih⟩
  | reference resolved _ ih =>
    simp only [List.mem_cons, List.mem_append, not_or]
    exact ⟨by decide, fun inside => (plain_of_resolve resolved _ inside).2.2.2 rfl, by decide, ih⟩

/-- **The references in ready text are resolved.** -/
theorem exists_unescapeFrom (ready : Ready quoted raw) (total position : Nat) :
    ∃ text, unescapeFrom total position .plain raw = .ok text := by
  induction ready generalizing position with
  | nil => exact ⟨[], rfl⟩
  | @char c rest plain _ _ ih =>
    obtain ⟨text, resolved⟩ := ih (position + c.utf8Size)
    exact ⟨c :: text, by rw [unescapeFrom, if_neg plain.2, resolved]; rfl⟩
  | @reference name rest c resolved _ ih =>
    have closed : ∀ d ∈ name, d ≠ ';' ∧ d ≠ '&' := by
      intro d inside
      obtain ⟨semicolon, ampersand, -⟩ := plain_of_resolve resolved d inside
      exact ⟨semicolon, ampersand⟩
    obtain ⟨position', here⟩ := unescapeFrom_reference closed
      (fun first => resolve_of_resolve resolved first) total position rest
    obtain ⟨text, others⟩ := ih position'
    have whole : '&' :: (name ++ ';' :: rest) = '&' :: (name ++ [';']) ++ rest := by simp
    exact ⟨c :: text, by rw [whole, here, others]; rfl⟩

theorem resolves (ready : Ready quoted raw) : ∃ text, unescape raw = .ok text :=
  ready.exists_unescapeFrom _ 0

end Ready

theorem ready_escapeChar (quoted : Bool) (c : Char) : Ready quoted (escapeChar c) := by
  rcases escapeChar_cases c with ⟨name, eq, named, closed⟩ | ⟨eq, bracket, ampersand, quote⟩
  · have resolved : resolve 0 name = .ok c := by
      unfold resolve
      split
      · exact absurd rfl (closed '#' List.mem_cons_self).2.2.2.2
      · simp only [named]
    rw [eq]
    exact .reference resolved .nil
  · rw [eq]
    exact .char ⟨bracket, ampersand⟩ (fun _ => quote) .nil

/-- **Escaped text is ready.** -/
theorem ready_escape (quoted : Bool) (text : List Char) : Ready quoted (escape text) := by
  induction text with
  | nil => exact .nil
  | cons c text ih => exact (ready_escapeChar quoted c).append ih

/-! ### What ready text is -/

/-- An ampersand in text that can be resolved starts a reference. -/
theorem exists_reference_of_unescapeFrom {total position first : Nat} {seen raw text : List Char}
    (resolved : unescapeFrom total position (.reference first seen) raw = .ok text) :
    ∃ (name rest : List Char) (c : Char) (position' : Nat) (text' : List Char),
      raw = name ++ ';' :: rest ∧ resolve (first + 1) (seen.reverse ++ name) = .ok c
        ∧ unescapeFrom total position' .plain rest = .ok text' := by
  induction raw generalizing position seen with
  | nil => cases resolved
  | cons c raw ih =>
    rw [unescapeFrom] at resolved
    split at resolved
    · rename_i semicolon
      subst semicolon
      split at resolved
      · rename_i named
        cases others : unescapeFrom total (position + 1) .plain raw with
        | error fault =>
          rw [others] at resolved
          cases resolved
        | ok text' =>
          exact ⟨[], raw, _, _, text', rfl, by rwa [List.append_nil], others⟩
      · cases resolved
    · split at resolved
      · cases resolved
      · obtain ⟨name, rest, d, position', text', whole, named, others⟩ := ih resolved
        refine ⟨c :: name, rest, d, position', text', by rw [whole]; rfl, ?_, others⟩
        simpa using named

theorem ready_of_unescapeFrom {quoted : Bool} {total position : Nat} {raw text : List Char}
    (resolved : unescapeFrom total position .plain raw = .ok text) (bracket : '<' ∉ raw)
    (quote : quoted = true → '"' ∉ raw) : Ready quoted raw := by
  -- A reference takes more than one character, so the induction is on the length.
  induction length : raw.length using Nat.strongRecOn generalizing raw position text with
  | _ length' ih =>
    cases raw with
    | nil => exact .nil
    | cons c raw =>
      rw [List.mem_cons, not_or] at bracket
      simp only [List.mem_cons, not_or] at quote
      rw [unescapeFrom] at resolved
      split at resolved
      · rename_i ampersand
        subst ampersand
        obtain ⟨name, rest, d, position', text', rfl, named, others⟩ :=
          exists_reference_of_unescapeFrom resolved
        simp only [List.mem_append, List.mem_cons, not_or] at bracket quote
        have shorter : rest.length < length' := by
          rw [← length, List.length_cons, List.length_append, List.length_cons]
          omega
        have more := ih _ shorter others bracket.2.2.2 (fun q => (quote q).2.2.2) rfl
        exact .reference (resolve_of_resolve named 0) more
      · rename_i other
        cases others : unescapeFrom total (position + c.utf8Size) .plain raw with
        | error fault =>
          rw [others] at resolved
          cases resolved
        | ok text' =>
          have shorter : raw.length < length' := by
            rw [← length, List.length_cons]
            omega
          have more := ih _ shorter others bracket.2 (fun q => (quote q).2) rfl
          exact .char ⟨Ne.symm bracket.1, other⟩ (fun q => Ne.symm (quote q).1) more

/-- **Ready text is text without markup whose references can be resolved.** -/
theorem ready_iff {quoted : Bool} {raw : List Char} :
    Ready quoted raw ↔
      '<' ∉ raw ∧ (quoted = true → '"' ∉ raw) ∧ ∃ text, unescape raw = .ok text := by
  constructor
  · intro ready
    refine ⟨ready.bracket_not_mem, ?_, ready.resolves⟩
    rintro rfl
    exact ready.quote_not_mem
  · rintro ⟨bracket, quote, text, resolved⟩
    exact ready_of_unescapeFrom resolved bracket quote

/-! ### In a charset -/

/-- The reference that stands for a character in a charset that lacks it. -/
theorem ready_characterReference (quoted : Bool) {c : Char} (nonzero : c.toNat ≠ 0) :
    Ready quoted (Charset.characterReference c) :=
  @Ready.reference quoted ('#' :: Text.decimal c.toNat) [] c (numbered_decimal nonzero) .nil

variable [MultibyteCodecs]

/-- Every charset has U+0000, which no reference can name. -/
theorem toNat_readChar_ne_zero {charset : Charset} [charset.Lawful] {c : Char}
    (lacking : ¬charset.represents c = true) : (charset.readChar c).toNat ≠ 0 := by
  intro zero
  apply lacking
  have null : c.toNat = 0 := by
    cases charset with
    | multibyte set =>
      rw [Charset.represents_multibyte] at lacking
      rw [Charset.readChar, if_neg lacking, MultibyteSet.referenceChar] at zero
      split at zero
      · exact absurd zero (by decide)
      · exact zero
    | _ => exact zero
  apply charset.represents_of_ascii (by omega)
  have same : c = Char.ofNat 0 := by rw [← null, Char.ofNat_toNat]
  rw [same]
  decide

theorem Ready.conveyed {quoted : Bool} {raw : List Char} (ready : Ready quoted raw)
    (charset : Charset) [charset.Lawful] : Ready quoted (charset.conveyed raw) := by
  induction ready with
  | nil => exact .nil
  | @char c rest plain unquoted _ ih =>
    rw [Charset.conveyed_cons, Charset.conveyedChar]
    split
    · rename_i known
      have other {d : Char} (before : c ≠ d) (ascii : d.toNat < 0x80) (apart : d ≠ '\\' ∧ d ≠ '~') :
          charset.readChar c ≠ d := Charset.readChar_ne known before ascii apart
      exact .char ⟨other plain.1 (by decide) (by decide), other plain.2 (by decide) (by decide)⟩
        (fun here => other (unquoted here) (by decide) (by decide)) ih
    · rename_i lacking
      exact Ready.append (ready_characterReference quoted (toNat_readChar_ne_zero lacking)) ih
  | @reference name rest c resolved _ ih =>
    have kept : charset.conveyed ('&' :: (name ++ [';'])) = '&' :: (name ++ [';']) := by
      apply charset.conveyed_of_direct
      intro d inside
      rcases List.mem_cons.mp inside with rfl | inside
      · decide
      · rcases List.mem_append.mp inside with inside | inside
        · exact ascii_of_isReferenceChar (isReferenceChar_of_resolve resolved d inside)
        · rw [List.mem_singleton.mp inside]
          decide
    have whole : '&' :: (name ++ ';' :: rest) = '&' :: (name ++ [';']) ++ rest := by simp
    rw [whole, Charset.conveyed_append, kept, List.cons_append, List.append_assoc,
      List.singleton_append]
    exact .reference resolved ih

end FlatFile.Markup
