/-
  FlatFile/Proofs/Charset/Output.lean
  ===================================
  **What a reader gets of a text that was written in any charset.**

  It is read in the output form of the charset, which is not always the charset itself:
  text meant for UTF-16 or for the charset of content that must not be interpreted is
  written in UTF-8.  Each character that the charset has comes back, and each other one
  as a reference in ASCII (`decode_encode`).  In the multibyte sets a few characters come
  back as others (`readChar`); a text of characters that the charset has and gives back
  comes back as it was (`conveyed_eq_self`).

  A document is written piece by piece, and so are the lines of a file.  The pieces are
  read back as one text if each of them can stand after the one before (`decode_pieces`),
  which those of a document can, since they begin in ASCII (`decode_of_opens`).
-/
import FlatFile.Proofs.Charset.Multibyte
import FlatFile.Proofs.Charset.Pages

namespace FlatFile.Charset

variable [MultibyteCodecs]

/-! ### Texts on their way -/

/-- The character that a reader has in the end in place of one that was written. -/
def readChar (charset : Charset) (c : Char) : Char :=
  match charset with
  | .multibyte set => if set.codec.has c then (set.readBack c).headD c else set.referenceChar c
  | _ => c

/-- A character that the charset has and gives back. -/
def keeps (charset : Charset) (c : Char) : Bool := charset.represents c && charset.readChar c == c

/-- A character, or the reference that is written in its place. -/
def conveyedChar (charset : Charset) (c : Char) : List Char :=
  if charset.represents c then [charset.readChar c] else characterReference (charset.readChar c)

/-- **A text as a reader gets it** after it was written in a charset. -/
def conveyed (charset : Charset) (text : List Char) : List Char :=
  text.flatMap charset.conveyedChar

variable {charset : Charset}

theorem keeps_iff {c : Char} :
    charset.keeps c = true ↔ charset.represents c = true ∧ charset.readChar c = c := by
  simp [keeps]

theorem conveyed_append (charset : Charset) (text more : List Char) :
    charset.conveyed (text ++ more) = charset.conveyed text ++ charset.conveyed more :=
  List.flatMap_append

theorem conveyed_cons (charset : Charset) (c : Char) (text : List Char) :
    charset.conveyed (c :: text) = charset.conveyedChar c ++ charset.conveyed text := rfl

theorem conveyedChar_of_keeps {c : Char} (kept : charset.keeps c = true) :
    charset.conveyedChar c = [c] := by
  obtain ⟨known, same⟩ := keeps_iff.mp kept
  rw [conveyedChar, if_pos known, same]

/-- **A text of characters that a charset has and gives back is read back.** -/
theorem conveyed_eq_self {text : List Char} (kept : ∀ c ∈ text, charset.keeps c = true) :
    charset.conveyed text = text := by
  induction text with
  | nil => rfl
  | cons c text ih =>
    rcases List.forall_mem_cons.mp kept with ⟨here, others⟩
    rw [conveyed_cons, conveyedChar_of_keeps here, ih others, List.singleton_append]

/-- Where every character is read back, the text comes back as it is spelled. -/
theorem conveyed_eq_spelled (itself : ∀ c, charset.readChar c = c) (text : List Char) :
    charset.conveyed text = charset.spelled text := by
  apply congrArg (text.flatMap ·)
  funext c
  rw [conveyedChar, itself, spelledChar]

omit [MultibyteCodecs] in
theorem output_output (charset : Charset) : charset.output.output = charset.output := by
  cases charset with
  | _ => rfl

/-- Only the multibyte sets give back other characters than they were given. -/
theorem readChar_eq_self (apart : ∀ set, charset ≠ .multibyte set) (c : Char) :
    charset.readChar c = c := by
  cases charset with
  | multibyte set => exact absurd rfl (apart set)
  | _ => rfl

theorem keeps_utf8 (c : Char) : Charset.utf8.keeps c = true := keeps_iff.mpr ⟨rfl, rfl⟩

theorem represents_multibyte (set : MultibyteSet) (c : Char) :
    (multibyte set).represents c = set.codec.has c := by
  have own : (multibyte set).encodeChar? c =
      if set.codec.has c then some (set.codec.encode [c]) else none := rfl
  have here : (multibyte set).output = .multibyte set := rfl
  rw [represents, here, own]
  cases set.codec.has c with
  | true => rfl
  | false => rfl

/-! ### ASCII -/

/-- Text in ASCII that switches no character set. -/
def IsDirect (text : List Char) : Prop :=
  ∀ c ∈ text, c.toNat < 0x80 ∧ MultibyteSet.isShift c = false

-- Only the characters of the text are tried, not all there are.
instance (text : List Char) : Decidable (IsDirect text) := List.decidableBAll _ text

/-- Two texts that can be written one after the other, so that both are read back. -/
def Joins (charset : Charset) (text more : List Char) : Prop :=
  charset = .multibyte .iso2022Jp → MultibyteSet.Settles text ∨ MultibyteSet.Opens more

instance (charset : Charset) (text more : List Char) : Decidable (charset.Joins text more) :=
  inferInstanceAs (Decidable (charset = _ →
    MultibyteSet.Settles text ∨ MultibyteSet.Opens more))

omit [MultibyteCodecs] in
/-- Texts that all begin in ASCII can be written in any order. -/
theorem joins_of_opens (charset : Charset) {texts : List (List Char)}
    (opens : ∀ text ∈ texts, MultibyteSet.Opens text) : texts.IsChain charset.Joins := by
  induction texts with
  | nil => exact .nil
  | cons text texts ih =>
    rcases List.forall_mem_cons.mp opens with ⟨-, others⟩
    refine List.isChain_cons.mpr ⟨?_, ih others⟩
    intro more first _
    exact .inr (others more (List.mem_of_mem_head? first))

instance : Charset.utf8.Lawful := ⟨fun _ same => by cases same⟩

instance : Charset.userDefined.Lawful := ⟨fun _ same => by cases same⟩

instance (codePage : CodePage) : (Charset.page codePage).Lawful := ⟨fun _ same => by cases same⟩

/-- **Every charset has the characters of ASCII and gives them back**, but for controls that switch
    character sets. -/
theorem keeps_of_ascii (charset : Charset) [lawful : charset.Lawful] {c : Char}
    (ascii : c.toNat < 0x80) (plain : MultibyteSet.isShift c = false) : charset.keeps c = true := by
  cases charset with
  | multibyte set =>
    have plain' := set.switches_of_plain plain
    have laws := lawful.multibyte set rfl
    have known := laws.has_ascii ascii plain'
    refine keeps_iff.mpr ⟨(represents_multibyte set c).trans known, ?_⟩
    rw [readChar, if_pos known, laws.readBack_ascii ascii plain']
    rfl
  | userDefined => exact keeps_iff.mpr ⟨SingleByte.userDefined.represents_ascii ascii, rfl⟩
  | page codePage => exact keeps_iff.mpr ⟨(SingleByte.page codePage).represents_ascii ascii, rfl⟩
  | _ => exact keeps_iff.mpr ⟨rfl, rfl⟩

section

variable (charset : Charset) [charset.Lawful] {c : Char} (ascii : c.toNat < 0x80)
  (plain : MultibyteSet.isShift c = false)

include ascii plain

theorem represents_of_ascii : charset.represents c = true :=
  (keeps_iff.mp (charset.keeps_of_ascii ascii plain)).1

theorem readChar_of_ascii : charset.readChar c = c :=
  (keeps_iff.mp (charset.keeps_of_ascii ascii plain)).2

theorem conveyedChar_of_ascii : charset.conveyedChar c = [c] :=
  conveyedChar_of_keeps (charset.keeps_of_ascii ascii plain)

theorem conveyed_cons_of_ascii (text : List Char) :
    charset.conveyed (c :: text) = c :: charset.conveyed text := by
  rw [conveyed_cons, charset.conveyedChar_of_ascii ascii plain, List.singleton_append]

end

/-- Such text comes back as it was, whatever the charset. -/
theorem conveyed_of_direct (charset : Charset) [charset.Lawful] {text : List Char}
    (direct : IsDirect text) : charset.conveyed text = text := by
  apply conveyed_eq_self
  intro c inside
  exact charset.keeps_of_ascii (direct c inside).1 (direct c inside).2

/-- **No character comes back as markup** unless it is that markup. -/
theorem readChar_ne [lawful : charset.Lawful] {c d : Char} (known : charset.represents c = true)
    (other : c ≠ d) (ascii : d.toNat < 0x80) (apart : d ≠ '\\' ∧ d ≠ '~') :
    charset.readChar c ≠ d := by
  cases charset with
  | multibyte set =>
    have has := (represents_multibyte set c).symm.trans known
    obtain ⟨e, read, which⟩ := (lawful.multibyte set rfl).readBack_of_has has
    rw [readChar, if_pos has, read, List.headD_cons]
    rintro rfl
    rcases which with same | upper | backslash | tilde
    · exact other same.symm
    · exact absurd ascii (Nat.not_lt.mpr upper)
    · exact apart.1 backslash
    · exact apart.2 tilde
  | _ => exact other

/-! ### Writing and reading back -/

theorem conveyedChar_multibyte {set : MultibyteSet} (lawful : set.Lawful) (c : Char) :
    (multibyte set).conveyedChar c = set.readBack c := by
  rw [conveyedChar, represents_multibyte, readChar]
  cases known : set.codec.has c with
  | true =>
    obtain ⟨d, read, -⟩ := lawful.readBack_of_has known
    rw [if_pos rfl, if_pos rfl, read, List.headD_cons]
  | false =>
    rw [if_neg Bool.false_ne_true, if_neg Bool.false_ne_true,
      lawful.readBack_of_lacking known]

theorem conveyed_multibyte {set : MultibyteSet} (lawful : set.Lawful) (text : List Char) :
    (multibyte set).conveyed text = text.flatMap set.readBack :=
  congrArg (text.flatMap ·) (funext (conveyedChar_multibyte lawful))

theorem decode_of_run {set : MultibyteSet} {bytes : List UInt8} {text : List Char}
    {state : MultibyteState} (resting : set.Resting state)
    (read : (DecoderState.initial (.multibyte set)).run bytes = (text, .multibyte set state)) :
    (multibyte set).decode bytes = text := by
  simp [decode, Decoder.feed, Decoder.new, Decoder.finish, hasByteOrderMark, Decoder.dropMark,
    read, DecoderState.finish, resting.finish]

/-- **A text is read back in the output form of the charset**, with a reference for each character
    that this lacks. -/
theorem decode_encode (charset : Charset) [lawful : charset.Lawful] {text : List Char}
    (unmarked : text.head? ≠ some byteOrderMark) :
    charset.output.decode (charset.encode text) = charset.conveyed text := by
  have unicode : utf8.decode (utf8.encode text) = text := by
    rw [readsBack_utf8.decode_encode text unmarked, spelled_utf8]
  have all (kept : ∀ c, charset.keeps c = true) : charset.conveyed text = text :=
    conveyed_eq_self fun c _ => kept c
  cases charset with
  | userDefined =>
    exact (SingleByte.userDefined.decode_encode text).trans
      (conveyed_eq_spelled (fun _ => rfl) text).symm
  | page codePage =>
    exact ((SingleByte.page codePage).decode_encode text).trans
      (conveyed_eq_spelled (fun _ => rfl) text).symm
  | multibyte set =>
    have laws := lawful.multibyte set rfl
    obtain ⟨state, resting, -, read⟩ := laws.run_encode text
    rw [conveyed_multibyte laws]
    exact decode_of_run resting read
  | _ => exact unicode.trans (all fun _ => keeps_iff.mpr ⟨rfl, rfl⟩).symm

/-- But for ISO-2022-JP, a text may be written in pieces. -/
theorem encode_flatten (charset : Charset) [lawful : charset.Lawful]
    (apart : charset ≠ .multibyte .iso2022Jp) (pieces : List (List Char)) :
    (pieces.map charset.encode).flatten = charset.encode pieces.flatten := by
  have together (charwise : charset.Charwise) :
      (pieces.map charset.encode).flatten = charset.encode pieces.flatten :=
    charwise.encode_flatten pieces
  cases charset with
  | multibyte set =>
    have other : set ≠ .iso2022Jp := fun same => apart (congrArg multibyte same)
    exact (lawful.multibyte set rfl).encode_flatten other pieces
  | _ => exact together fun _ => rfl

/-- **Pieces of a text are read back as one**, if they can be written one after the other. -/
theorem decode_pieces (charset : Charset) [lawful : charset.Lawful] {pieces : List (List Char)}
    (joined : pieces.IsChain charset.Joins)
    (unmarked : pieces.flatten.head? ≠ some byteOrderMark) :
    charset.output.decode (pieces.map charset.encode).flatten =
      charset.conveyed pieces.flatten := by
  by_cases switching : charset = .multibyte .iso2022Jp
  · subst switching
    have laws := lawful.multibyte .iso2022Jp rfl
    have joined' := joined.imp fun _ _ meets => meets rfl
    obtain ⟨state, resting, read⟩ :=
      laws.run_flatten_encode laws.resting_initial joined' (.inl rfl)
    rw [conveyed_multibyte laws]
    exact decode_of_run resting read
  · rw [charset.encode_flatten switching, charset.decode_encode unmarked]

omit [MultibyteCodecs] in
theorem unmarked_of_opens {pieces : List (List Char)}
    (opens : ∀ text ∈ pieces, MultibyteSet.Opens text) :
    pieces.flatten.head? ≠ some byteOrderMark := by
  match pieces, opens with
  | [], _ => exact Option.some_ne_none _ |>.symm
  | text :: pieces, opens =>
    match text, opens text List.mem_cons_self with
    | c :: text, ⟨ascii, _⟩ =>
      rw [List.flatten_cons, List.cons_append, List.head?_cons]
      rintro ⟨⟩
      exact absurd ascii (by decide)

/-- **Pieces that all begin in ASCII are read back as one.** -/
theorem decode_of_opens (charset : Charset) [charset.Lawful] {pieces : List (List Char)}
    (opens : ∀ text ∈ pieces, MultibyteSet.Opens text) :
    charset.output.decode (pieces.map charset.encode).flatten = charset.conveyed pieces.flatten :=
  charset.decode_pieces (charset.joins_of_opens opens) (unmarked_of_opens opens)

end FlatFile.Charset
