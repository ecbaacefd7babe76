/-
  FlatFile/Proofs/Markup/Spelling.lean
  ====================================
  **A document says the same in a charset that lacks some of its characters.**

  Markup is ASCII, so tags stay tags (`spelled_startTag`, `spelled_emptyTag`): only the
  text between them and the values in them may hold characters that are spelled out as
  references.  Spelled text is raw text still (`rawText_spelled`), and it means what it
  was made of (`unescape_spelled`), also where it looked like a reference before: what
  a text has of ampersands is escaped first.
-/
import FlatFile.Proofs.Charset.Pages
import FlatFile.Proofs.Markup.Tree

namespace FlatFile.Markup

/-! ### References by number -/

theorem baseDigit?_of_isDigit {c : Char} (digit : c.isDigit = true) :
    baseDigit? 10 c = some (c.toNat - '0'.toNat) := by
  have range : '0' ≤ c ∧ c ≤ '9' := by
    simp only [Char.isDigit, ge_iff_le, Bool.and_eq_true, decide_eq_true_eq] at digit
    exact digit
  have small : c.toNat - '0'.toNat < 10 := by
    have : c.toNat ≤ '9'.toNat := range.2
    have : '9'.toNat = '0'.toNat + 9 := rfl
    omega
  unfold baseDigit?
  simp only [if_pos range, if_pos small]

theorem codeFrom_of_digits {digits : List Char} (all : ∀ c ∈ digits, c.isDigit = true)
    {sofar : Nat} (below : Nat.ofDigitChars 10 digits sofar < UInt32.size) :
    codeFrom 10 sofar digits = .ok (Nat.ofDigitChars 10 digits sofar) := by
  induction digits generalizing sofar with
  | nil => rfl
  | cons c digits ih =>
    rw [Nat.ofDigitChars_cons] at below ⊢
    have small : 10 * sofar + (c.toNat - '0'.toNat) < UInt32.size :=
      Nat.lt_of_le_of_lt (Text.le_ofDigitChars _ _) below
    rcases List.forall_mem_cons.mp all with ⟨digit, others⟩
    rw [codeFrom, baseDigit?_of_isDigit digit]
    simp only [if_pos small]
    exact ih others below

theorem code_decimal {n : Nat} (small : n < UInt32.size) : code 10 (Text.decimal n) = .ok n := by
  have value : Nat.ofDigitChars 10 (Text.decimal n) 0 = n := Nat.ofDigitChars_ten_toDigits
  have digits : ∀ c ∈ Text.decimal n, c.isDigit = true := fun _ => Text.isDigit_of_mem_decimal
  have read : codeFrom 10 0 (Text.decimal n) = .ok n := by
    rw [codeFrom_of_digits digits (by rwa [value]), value]
  cases eq : Text.decimal n with
  | nil => exact absurd eq Nat.toDigits_ne_nil
  | cons c rest =>
    have digit : c.isDigit = true := digits c (eq ▸ List.mem_cons_self)
    have unsigned : ¬ (c = '+' ∨ c = '-') := by
      rintro (rfl | rfl)
      · exact absurd digit (by decide)
      · exact absurd digit (by decide)
    rw [code, if_neg unsigned, ← eq, read]

theorem numbered_decimal {c : Char} (nonzero : c.toNat ≠ 0) :
    numbered (Text.decimal c.toNat) = .ok c := by
  have small : c.toNat < UInt32.size := UInt32.toNat_lt_size c.val
  have decoded : codePoint c.toNat = .ok c := by
    have valid : c.toNat.isValidChar := c.valid
    rw [codePoint, if_neg nonzero, if_pos valid, Char.ofNat_toNat]
  unfold numbered
  split
  · rename_i rest eq
    have digit : 'x'.isDigit = true := Text.isDigit_of_mem_decimal (eq ▸ List.mem_cons_self)
    exact absurd digit (by decide)
  · simp only [code_decimal small, decoded]

/-! ### Escaped text -/

theorem escapeChar_of_not_ascii {c : Char} (other : ¬ c.toNat < 0x80) : escapeChar c = [c] := by
  have ne (d : Char) (ascii : d.toNat < 0x80) : c ≠ d := by
    rintro rfl
    exact other ascii
  rw [escapeChar, if_neg (ne '<' (by decide)), if_neg (ne '>' (by decide)),
    if_neg (ne '&' (by decide)), if_neg (ne '\'' (by decide)), if_neg (ne '"' (by decide))]

theorem isAscii_escapeChar {c : Char} (ascii : c.toNat < 0x80) :
    Text.isAscii (escapeChar c) = true := by
  have all : ∀ n < 0x80, Text.isAscii (escapeChar (Char.ofNat n)) = true := by decide +kernel
  have here := all c.toNat ascii
  rwa [Char.ofNat_toNat] at here

variable {charset : Charset}

variable [MultibyteCodecs]

/-- An escaped character is spelled as it is, or else by its number. -/
theorem spelled_escapeChar (readsBack : charset.ReadsBack) (c : Char) :
    charset.spelled (escapeChar c) = escapeChar c
      ∨ charset.spelled (escapeChar c) = Charset.characterReference c ∧ ¬ c.toNat < 0x80 := by
  by_cases ascii : c.toNat < 0x80
  · exact .inl (readsBack.spelled_of_ascii (isAscii_escapeChar ascii))
  · rw [escapeChar_of_not_ascii ascii, Charset.spelled_cons, Charset.spelled_nil, List.append_nil,
      Charset.spelledChar]
    split
    · exact .inl rfl
    · exact .inr ⟨rfl, ascii⟩

omit [MultibyteCodecs] in
/-- What stands between the ampersand and the semicolon of a reference by number. -/
theorem plain_of_mem_number {n : Nat} :
    ∀ d ∈ '#' :: Text.decimal n, d ≠ ';' ∧ d ≠ '&' ∧ d ≠ '<' ∧ d ≠ '"' := by
  intro d inside
  rcases List.mem_cons.mp inside with rfl | inside
  · decide
  · have char := isNameChar_of_mem_decimal inside
    exact ⟨ne_of_isNameChar char (by decide), ne_of_isNameChar char (by decide),
      ne_of_isNameChar char (by decide), ne_of_isNameChar char (by decide)⟩

omit [MultibyteCodecs] in
theorem characterReference_eq (c : Char) :
    Charset.characterReference c = '&' :: (('#' :: Text.decimal c.toNat) ++ [';']) := rfl

theorem spelled_escape_cons (c : Char) (text : List Char) :
    charset.spelled (escape (c :: text)) =
      charset.spelled (escapeChar c) ++ charset.spelled (escape text) :=
  charset.spelled_append (escapeChar c) (escape text)

/-- **Spelled text is raw text.** -/
theorem rawText_spelled (readsBack : charset.ReadsBack) (text : List Char) :
    RawText (charset.spelled (escape text)) := by
  induction text with
  | nil => exact .nil
  | cons c text ih =>
    rw [spelled_escape_cons]
    rcases spelled_escapeChar readsBack c with eq | ⟨eq, -⟩
    · rw [eq]
      exact (rawText_escapeChar c).append ih
    · rw [eq, characterReference_eq, List.cons_append, List.append_assoc]
      refine .reference (fun d inside => ?_) ih
      obtain ⟨semicolon, ampersand, bracket, -⟩ := plain_of_mem_number d inside
      exact ⟨semicolon, ampersand, bracket⟩

theorem quote_not_mem_spelled (readsBack : charset.ReadsBack) (text : List Char) :
    '"' ∉ charset.spelled (escape text) := by
  induction text with
  | nil => exact List.not_mem_nil
  | cons c text ih =>
    rw [spelled_escape_cons, List.mem_append, not_or]
    refine ⟨?_, ih⟩
    rcases spelled_escapeChar readsBack c with eq | ⟨eq, -⟩
    · rw [eq]
      intro inside
      exact quote_not_mem_escape [c] (List.mem_flatMap.mpr ⟨c, List.mem_singleton_self c, inside⟩)
    · rw [eq, characterReference_eq]
      intro inside
      rcases List.mem_cons.mp inside with amp | inside
      · exact absurd amp (by decide)
      rcases List.mem_append.mp inside with inside | inside
      · exact (plain_of_mem_number _ inside).2.2.2 rfl
      · exact absurd (List.mem_singleton.mp inside) (by decide)

theorem unescapeFrom_spelled (readsBack : charset.ReadsBack) (text : List Char)
    (total position : Nat) :
    unescapeFrom total position .plain (charset.spelled (escape text)) = .ok text := by
  induction text generalizing position with
  | nil => rfl
  | cons c text ih =>
    have first : ∃ position', unescapeFrom total position .plain
        (charset.spelled (escapeChar c) ++ charset.spelled (escape text)) =
          (unescapeFrom total position' .plain (charset.spelled (escape text))).map (c :: ·) := by
      rcases spelled_escapeChar readsBack c with eq | ⟨eq, other⟩
      · rw [eq]
        exact unescapeFrom_escapeChar c total position _
      · rw [eq]
        exact unescapeFrom_reference
          (fun d inside => ⟨(plain_of_mem_number d inside).1, (plain_of_mem_number d inside).2.1⟩)
          (fun _ => numbered_decimal (by omega)) total position _
    obtain ⟨position', eq⟩ := first
    rw [spelled_escape_cons, eq, ih]
    rfl

/-- **Spelled text means the text it was made of.** -/
theorem unescape_spelled (readsBack : charset.ReadsBack) (text : List Char) :
    unescape (charset.spelled (escape text)) = .ok text :=
  unescapeFrom_spelled readsBack text _ 0

/-! ### Tags -/

/-- An attribute with its value as a charset can spell it. -/
def Attribute.spelled (charset : Charset) (written : Attribute) : Attribute :=
  { written with value := charset.spelled written.value }

/-- The attributes as they are read from a document in a charset. -/
def spelledAttributes (charset : Charset) (attributes : List (List Char × List Char)) :
    List Attribute :=
  (written attributes).map (Attribute.spelled charset)

variable {name : List Char} {attributes : List (List Char × List Char)}

theorem spelledAttributes_names (charset : Charset) (attributes : List (List Char × List Char)) :
    (spelledAttributes charset attributes).map Attribute.name = attributes.map Prod.fst := by
  simp [spelledAttributes, written, Attribute.spelled, Attribute.ofText, Function.comp_def]

theorem wellFormed_spelledAttributes (readsBack : charset.ReadsBack)
    (keys : ∀ key ∈ attributes.map Prod.fst, isName key = true) :
    ∀ one ∈ spelledAttributes charset attributes, one.WellFormed := by
  intro one inside
  rcases List.mem_map.mp inside with ⟨plain, member, rfl⟩
  rcases List.mem_map.mp member with ⟨pair, given, rfl⟩
  exact ⟨keys pair.1 (List.mem_map_of_mem given), quote_not_mem_spelled readsBack pair.2⟩

theorem spelled_render (readsBack : charset.ReadsBack) {one : Attribute}
    (ascii : Text.isAscii one.name = true) :
    charset.spelled one.render = (one.spelled charset).render := by
  have blank : charset.spelled [' '] = [' '] := readsBack.spelled_of_ascii (by decide)
  have equals : charset.spelled ['=', '"'] = ['=', '"'] := readsBack.spelled_of_ascii (by decide)
  have quote : charset.spelled ['"'] = ['"'] := readsBack.spelled_of_ascii (by decide)
  have parts : one.render = [' '] ++ one.name ++ ['=', '"'] ++ one.value ++ ['"'] := rfl
  simp only [parts, Charset.spelled_append, blank, readsBack.spelled_of_ascii ascii, equals, quote]
  rfl

theorem spelled_renderHead (readsBack : charset.ReadsBack)
    (known : ∀ c ∈ name, charset.represents c = true)
    (ascii : ∀ key ∈ attributes.map Prod.fst, Text.isAscii key = true) :
    charset.spelled (renderHead name (written attributes)) =
      renderHead name (spelledAttributes charset attributes) := by
  have values : charset.spelled ((written attributes).flatMap Attribute.render) =
      (spelledAttributes charset attributes).flatMap Attribute.render := by
    induction attributes with
    | nil => rfl
    | cons pair attributes ih =>
      rcases List.forall_mem_cons.mp ascii with ⟨here, others⟩
      have first : charset.spelled (Attribute.ofText pair.1 pair.2).render =
          ((Attribute.ofText pair.1 pair.2).spelled charset).render :=
        spelled_render readsBack here
      have split : (written (pair :: attributes)).flatMap Attribute.render =
          (Attribute.ofText pair.1 pair.2).render
            ++ (written attributes).flatMap Attribute.render := rfl
      rw [split, Charset.spelled_append, first, ih others]
      rfl
  rw [renderHead, Charset.spelled_append, Charset.spelled_eq_self known, values, renderHead]

theorem spelled_startTag (readsBack : charset.ReadsBack)
    (known : ∀ c ∈ name, charset.represents c = true)
    (ascii : ∀ key ∈ attributes.map Prod.fst, Text.isAscii key = true) :
    charset.spelled (startTag name (written attributes)) =
      startTag name (spelledAttributes charset attributes) := by
  have opening : charset.spelled ['<'] = ['<'] := readsBack.spelled_of_ascii (by decide)
  have closing : charset.spelled ['>'] = ['>'] := readsBack.spelled_of_ascii (by decide)
  have parts : startTag name (written attributes) =
      ['<'] ++ renderHead name (written attributes) ++ ['>'] := rfl
  simp only [parts, Charset.spelled_append, opening, closing,
    spelled_renderHead readsBack known ascii]
  rfl

theorem spelled_emptyTag (readsBack : charset.ReadsBack)
    (known : ∀ c ∈ name, charset.represents c = true)
    (ascii : ∀ key ∈ attributes.map Prod.fst, Text.isAscii key = true) :
    charset.spelled (emptyTag name (written attributes)) =
      emptyTag name (spelledAttributes charset attributes) := by
  have opening : charset.spelled ['<'] = ['<'] := readsBack.spelled_of_ascii (by decide)
  have closing : charset.spelled ['/', '>'] = ['/', '>'] := readsBack.spelled_of_ascii (by decide)
  have parts : emptyTag name (written attributes) =
      ['<'] ++ renderHead name (written attributes) ++ ['/', '>'] := rfl
  simp only [parts, Charset.spelled_append, opening, closing,
    spelled_renderHead readsBack known ascii]
  rfl

theorem spelled_endTag (readsBack : charset.ReadsBack)
    (known : ∀ c ∈ name, charset.represents c = true) :
    charset.spelled (endTag name) = endTag name := by
  have opening : charset.spelled ['<', '/'] = ['<', '/'] := readsBack.spelled_of_ascii (by decide)
  have closing : charset.spelled ['>'] = ['>'] := readsBack.spelled_of_ascii (by decide)
  rw [endTag, Charset.spelled_append, Charset.spelled_append, opening,
    Charset.spelled_eq_self known, closing]

/-! ### Comments and declarations -/

omit [MultibyteCodecs] in
theorem mem_or_eq_of_mem_spreadHyphens {afterHyphen : Bool} {line : List Char} {c : Char}
    (inside : c ∈ spreadHyphens afterHyphen line) : c ∈ line ∨ c = ' ' := by
  induction line generalizing afterHyphen with
  | nil => exact .inl inside
  | cons d line ih =>
    rw [spreadHyphens] at inside
    split at inside
    · rcases List.mem_cons.mp inside with blank | inside
      · exact .inr blank
      rcases List.mem_cons.mp inside with rfl | inside
      · exact .inl List.mem_cons_self
      · exact (ih inside).imp_left (List.mem_cons_of_mem d)
    · rcases List.mem_cons.mp inside with rfl | inside
      · exact .inl List.mem_cons_self
      · exact (ih inside).imp_left (List.mem_cons_of_mem d)

theorem spelled_comment (readsBack : charset.ReadsBack) {line : List Char}
    (known : ∀ c ∈ line, charset.represents c = true) :
    charset.spelled (comment (commentBody line)) = comment (commentBody line) := by
  have opening : charset.spelled ['<', '!', '-', '-', ' '] = ['<', '!', '-', '-', ' '] :=
    readsBack.spelled_of_ascii (by decide)
  have closing : charset.spelled [' ', '-', '-', '>'] = [' ', '-', '-', '>'] :=
    readsBack.spelled_of_ascii (by decide)
  have content : charset.spelled (spreadHyphens false line) = spreadHyphens false line := by
    refine Charset.spelled_eq_self fun c inside => ?_
    rcases mem_or_eq_of_mem_spreadHyphens inside with member | rfl
    · exact known c member
    · exact readsBack.ascii ' ' (by decide)
  have parts : comment (commentBody line) = ['<', '!', '-', '-', ' ']
      ++ spreadHyphens false line ++ [' ', '-', '-', '>'] := by
    simp [comment, commentBody]
  rw [parts, Charset.spelled_append, Charset.spelled_append, opening, content, closing]

theorem spelled_declaration (readsBack : charset.ReadsBack) {label : String}
    (ascii : Text.isAscii label.toList = true) :
    charset.spelled (declaration label) = declaration label := by
  have opening : Text.isAscii "<?xml version=\"1.0\" encoding=\"".toList = true := by decide
  have closing : Text.isAscii ['"', '?', '>'] = true := by decide
  apply readsBack.spelled_of_ascii
  exact Text.isAscii_append.mpr ⟨Text.isAscii_append.mpr ⟨opening, ascii⟩, closing⟩

end FlatFile.Markup
