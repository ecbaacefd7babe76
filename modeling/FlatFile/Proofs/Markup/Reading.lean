/-
  FlatFile/Proofs/Markup/Reading.lean
  ===================================
  **Written markup is read back, piece by piece.**

  `Reader.Reads` says that some characters take one reader to another and complete
  certain events on the way.  It asks of every reader in between that the end of a
  block makes no difference to it, which holds everywhere outside document types;
  so what is read in this way does not depend on blocks.

  There is one lemma for each kind of piece, from the text before it to the text
  after it: a tag gives its name and the text of its attributes (`reads_startTag`,
  `reads_emptyTag`), an end tag closes the element it names (`reads_endTag`), a
  comment made of a line ends where it should (`reads_comment`), and raw text is
  taken as it is (`reads_plain`, `reads_reference`).
-/
import FlatFile.Markup.Reader
import FlatFile.Proofs.Markup.Attributes

namespace FlatFile.Markup.Reader

/-! ### Reading -/

/-- **Reading**: the characters complete these events and take one reader to the other, and
    none of the readers on the way minds the end of a block. -/
inductive Reads : Reader → List Char → List Event → Reader → Prop where
  | nil (reader : Reader) : Reads reader [] [] reader
  | cons {reader next last : Reader} {c : Char} {rest : List Char} {event : Option Event}
      {events : List Event} (step : reader.step c = .ok (event, next))
      (calm : next.pause = next) (more : Reads next rest events last) :
      Reads reader (c :: rest) (event.toList ++ events) last

variable {reader middle last : Reader} {chars more : List Char} {events events' : List Event}

theorem Reads.append (h : Reads reader chars events middle) (h' : Reads middle more events' last) :
    Reads reader (chars ++ more) (events ++ events') last := by
  induction h with
  | nil => exact h'
  | cons step calm _ ih =>
    rw [List.append_assoc]
    exact .cons step calm (ih h')

theorem Reads.split (h : Reads reader (chars ++ more) events last) :
    ∃ middle before after, Reads reader chars before middle ∧ Reads middle more after last
      ∧ events = before ++ after := by
  induction chars generalizing reader events with
  | nil => exact ⟨reader, [], events, .nil _, h, rfl⟩
  | cons c chars ih =>
    cases h with
    | cons step calm rest =>
      obtain ⟨middle, before, after, first, second, rfl⟩ := ih rest
      exact ⟨middle, _, after, .cons step calm first, second, (List.append_assoc ..).symm⟩

theorem Reads.silent {next : Reader} {c : Char} (step : reader.step c = .ok (none, next))
    (calm : next.pause = next) (rest : Reads next chars events last) :
    Reads reader (c :: chars) events last :=
  .cons step calm rest

theorem Reads.completes {next : Reader} {c : Char} {event : Event}
    (step : reader.step c = .ok (some event, next)) (calm : next.pause = next) :
    Reads reader [c] [event] next :=
  .cons step calm (.nil _)

/-- A reader that minds no block goes on to readers that mind none. -/
theorem Reads.calm (h : Reads reader chars events last) (calm : reader.pause = reader) :
    last.pause = last := by
  induction h with
  | nil => exact calm
  | cons _ next _ ih => exact ih next

theorem step_new {c : Char} (other : c ≠ '\uFEFF') : new.step c = step ⟨.text [], []⟩ c := by
  simp only [new, step, if_neg other, stepText, moved]

theorem reads_new {c : Char} (other : c ≠ '\uFEFF')
    (h : Reads ⟨.text [], []⟩ (c :: chars) events last) : Reads new (c :: chars) events last := by
  cases h with
  | cons step calm more => exact .cons ((step_new other).trans step) calm more

/-! ### Text -/

variable (seen : List Char) (openElements : List (List Char))

/-- **Characters that are only gathered**: each is put before those seen and completes nothing. -/
theorem reads_gathered {scan : List Char → Scan} (seen : List Char)
    (gathers : ∀ c ∈ chars, ∀ seen,
      step ⟨scan seen, openElements⟩ c = .ok (none, ⟨scan (c :: seen), openElements⟩))
    (calm : ∀ seen, pause ⟨scan seen, openElements⟩ = ⟨scan seen, openElements⟩) :
    Reads ⟨scan seen, openElements⟩ chars [] ⟨scan (chars.reverse ++ seen), openElements⟩ := by
  induction chars generalizing seen with
  | nil => exact .nil _
  | cons c chars ih =>
    rcases List.forall_mem_cons.mp gathers with ⟨here, others⟩
    rw [List.reverse_cons, List.append_assoc]
    exact .silent (here seen) (calm _) (ih (c :: seen) others)

theorem reads_plain (plain : ∀ c ∈ chars, c ≠ '<' ∧ c ≠ '&') :
    Reads ⟨.text seen, openElements⟩ chars [] ⟨.text (chars.reverse ++ seen), openElements⟩ := by
  apply reads_gathered openElements seen
  · intro c inside seen
    obtain ⟨bracket, ampersand⟩ := plain c inside
    simp only [step, stepText, if_neg bracket, if_neg ampersand, moved]
  · intro seen
    rfl

theorem reads_name_of_reference {name : List Char}
    (closed : ∀ c ∈ name, c ≠ ';' ∧ c ≠ '&' ∧ c ≠ '<') :
    Reads ⟨.reference seen, openElements⟩ name []
      ⟨.reference (name.reverse ++ seen), openElements⟩ := by
  apply reads_gathered openElements seen
  · intro c inside seen
    obtain ⟨semicolon, ampersand, bracket⟩ := closed c inside
    simp only [step, if_neg semicolon, ampersand, bracket, or_self, if_false, moved]
  · intro seen
    rfl

theorem reads_reference {name : List Char} (closed : ∀ c ∈ name, c ≠ ';' ∧ c ≠ '&' ∧ c ≠ '<') :
    Reads ⟨.text seen, openElements⟩ ('&' :: (name ++ [';']))
      ((textEvent seen).toList ++ [.reference name]) ⟨.text [], openElements⟩ := by
  have semicolon : Reads ⟨.reference (name.reverse ++ []), openElements⟩ [';'] [.reference name]
      ⟨.text [], openElements⟩ := by
    refine .completes ?_ rfl
    simp [step, completed]
  exact .cons rfl rfl ((reads_name_of_reference [] openElements closed).append semicolon)

/-! ### Tags -/

theorem reads_opening (h : Reads ⟨.opened, openElements⟩ chars events last) :
    Reads ⟨.text seen, openElements⟩ ('<' :: chars) ((textEvent seen).toList ++ events) last :=
  .cons rfl rfl h

theorem reads_tag_plain (plain : ∀ c ∈ chars, c ≠ '>' ∧ c ≠ '"' ∧ c ≠ '\'') :
    Reads ⟨.tag none seen, openElements⟩ chars []
      ⟨.tag none (chars.reverse ++ seen), openElements⟩ := by
  apply reads_gathered openElements seen
  · intro c inside seen
    simp [step, stepTag, moved, nextQuote, plain c inside]
  · intro seen
    rfl

theorem reads_tag_quoted (unquoted : '"' ∉ chars) :
    Reads ⟨.tag (some '"') seen, openElements⟩ chars []
      ⟨.tag (some '"') (chars.reverse ++ seen), openElements⟩ := by
  apply reads_gathered openElements seen
  · intro c inside seen
    have other : c ≠ '"' := by
      rintro rfl
      exact unquoted inside
    simp [step, stepTag, moved, nextQuote, other]
  · intro seen
    rfl

theorem plain_of_isName {name : List Char} (named : isName name = true) :
    ∀ c ∈ name, c ≠ '>' ∧ c ≠ '"' ∧ c ≠ '\'' := by
  intro c inside
  have char := isNameChar_of_mem named inside
  exact ⟨ne_of_isNameChar char (by decide), ne_of_isNameChar char (by decide),
    ne_of_isNameChar char (by decide)⟩

theorem reads_attribute {written : Attribute} (wellFormed : written.WellFormed) :
    Reads ⟨.tag none seen, openElements⟩ written.render []
      ⟨.tag none (written.render.reverse ++ seen), openElements⟩ := by
  have before : ∀ c ∈ ' ' :: written.name ++ ['='], c ≠ '>' ∧ c ≠ '"' ∧ c ≠ '\'' := by
    intro c inside
    rcases List.mem_append.mp inside with inside | inside
    · rcases List.mem_cons.mp inside with rfl | inside
      · decide
      · exact plain_of_isName wellFormed.name c inside
    · rw [List.mem_singleton.mp inside]
      decide
  have opening := reads_tag_plain seen openElements before
  have value := reads_tag_quoted ('"' :: ((' ' :: written.name ++ ['=']).reverse ++ seen))
    openElements wellFormed.value
  have closing : Reads ⟨.tag (some '"') (written.value.reverse
      ++ '"' :: ((' ' :: written.name ++ ['=']).reverse ++ seen)), openElements⟩ ['"'] []
      ⟨.tag none ('"' :: (written.value.reverse
        ++ '"' :: ((' ' :: written.name ++ ['=']).reverse ++ seen))), openElements⟩ :=
    .silent rfl rfl (.nil _)
  have whole := opening.append (.silent (c := '"') rfl rfl (value.append closing))
  simpa [Attribute.render] using whole

theorem reads_attributes {attributes : List Attribute}
    (wellFormed : ∀ written ∈ attributes, written.WellFormed) :
    Reads ⟨.tag none seen, openElements⟩ (attributes.flatMap Attribute.render) []
      ⟨.tag none ((attributes.flatMap Attribute.render).reverse ++ seen), openElements⟩ := by
  induction attributes generalizing seen with
  | nil => exact .nil _
  | cons written attributes ih =>
    rcases List.forall_mem_cons.mp wellFormed with ⟨here, others⟩
    have rest := ih (written.render.reverse ++ seen) others
    have whole := (reads_attribute seen openElements here).append rest
    simpa using whole

theorem reads_renderHead {name : List Char} {attributes : List Attribute}
    (named : isName name = true) (wellFormed : ∀ written ∈ attributes, written.WellFormed) :
    Reads ⟨.opened, openElements⟩ (renderHead name attributes) []
      ⟨.tag none (renderHead name attributes).reverse, openElements⟩ := by
  rcases isName_iff.mp named with ⟨c, rest, rfl, -, -⟩
  have char : isNameChar c = true := isNameChar_of_mem named List.mem_cons_self
  rcases List.forall_mem_cons.mp (plain_of_isName named) with ⟨here, plain⟩
  -- The first character of a name begins none of the other pieces of markup.
  have first : step ⟨.opened, openElements⟩ c = .ok (none, ⟨.tag none [c], openElements⟩) := by
    have bang : c ≠ '!' := ne_of_isNameChar char (by decide)
    have slash : c ≠ '/' := ne_of_isNameChar char (by decide)
    have question : c ≠ '?' := ne_of_isNameChar char (by decide)
    simp [step, bang, slash, question, stepTag, moved, nextQuote, here]
  have others := reads_tag_plain [c] openElements plain
  have whole := Reads.silent first rfl (others.append (reads_attributes _ _ wellFormed))
  simpa [renderHead] using whole

theorem head?_reverse_renderHead {name : List Char} (named : isName name = true)
    (attributes : List Attribute) : (renderHead name attributes).reverse.head? ≠ some '/' := by
  rw [List.head?_reverse]
  rcases List.eq_nil_or_concat attributes with rfl | ⟨others, written, rfl⟩
  · intro slash
    rw [renderHead, List.flatMap_nil, List.append_nil] at slash
    exact ne_of_isNameChar (isNameChar_of_mem named (List.mem_of_getLast? slash)) (by decide) rfl
  · have ending : renderHead name (others.concat written) =
        renderHead name others ++ (' ' :: written.name ++ ['=', '"'] ++ written.value) ++ ['"'] := by
      simp [renderHead, Attribute.render]
    rw [ending, List.getLast?_concat]
    decide

theorem reads_startTag {name : List Char} {attributes : List Attribute}
    (named : isName name = true) (wellFormed : ∀ written ∈ attributes, written.WellFormed) :
    Reads ⟨.text seen, openElements⟩ (startTag name attributes)
      ((textEvent seen).toList ++ [.start ⟨name, attributes.flatMap Attribute.render⟩])
      ⟨.text [], name :: openElements⟩ := by
  have content := takeWhile_renderHead (fun _ inside => isNameChar_of_mem named inside) attributes
  have unslashed := head?_reverse_renderHead named attributes
  -- With a slash before its end the tag would be one of an element without content.
  have closing : step ⟨.tag none (renderHead name attributes).reverse, openElements⟩ '>' =
      .ok (some (.start ⟨name, attributes.flatMap Attribute.render⟩),
        ⟨.text [], name :: openElements⟩) := by
    simp only [step, stepTag, true_and, if_true]
    split
    · rename_i eq
      rw [eq] at unslashed
      exact absurd rfl unslashed
    · rw [List.reverse_reverse, content]
  exact reads_opening _ _ ((reads_renderHead _ named wellFormed).append (.completes closing rfl))

theorem reads_emptyTag {name : List Char} {attributes : List Attribute}
    (named : isName name = true) (wellFormed : ∀ written ∈ attributes, written.WellFormed) :
    Reads ⟨.text seen, openElements⟩ (emptyTag name attributes)
      ((textEvent seen).toList ++ [.empty ⟨name, attributes.flatMap Attribute.render⟩])
      ⟨.text [], openElements⟩ := by
  have content := takeWhile_renderHead (fun _ inside => isNameChar_of_mem named inside) attributes
  have closing : step ⟨.tag none ('/' :: (renderHead name attributes).reverse), openElements⟩ '>' =
      .ok (some (.empty ⟨name, attributes.flatMap Attribute.render⟩),
        ⟨.text [], openElements⟩) := by
    simp only [step, stepTag, true_and, if_true, List.reverse_reverse, content, completed]
  refine reads_opening _ _ ((reads_renderHead _ named wellFormed).append ?_)
  exact .silent rfl rfl (.completes closing rfl)

theorem reads_endTag_plain (plain : ∀ c ∈ chars, c ≠ '>' ∧ c ≠ '"' ∧ c ≠ '\'') :
    Reads ⟨.endTag none seen, openElements⟩ chars []
      ⟨.endTag none (chars.reverse ++ seen), openElements⟩ := by
  apply reads_gathered openElements seen
  · intro c inside seen
    simp [step, stepEndTag, moved, nextQuote, plain c inside]
  · intro seen
    rfl

/-- A name ends with no blank, so an end tag names all of it. -/
theorem endTagName_reverse {name : List Char} (named : isName name = true) :
    endTagName name.reverse = name := by
  have unblank : name.reverse.dropWhile isMarkupBlank = name.reverse := by
    cases eq : name.reverse with
    | nil => rfl
    | cons c rest =>
      have inside : c ∈ name := List.mem_reverse.mp (eq ▸ List.mem_cons_self)
      rw [List.dropWhile_cons_of_neg
        (by simp [isMarkupBlank_of_isNameChar (isNameChar_of_mem named inside)])]
  unfold endTagName
  rw [unblank]
  split
  · exact List.reverse_reverse name
  · exact List.reverse_reverse name

theorem reads_endTag {name : List Char} (named : isName name = true) :
    Reads ⟨.text seen, name :: openElements⟩ (endTag name)
      ((textEvent seen).toList ++ [.finish name]) ⟨.text [], openElements⟩ := by
  have closing : step ⟨.endTag none (name.reverse ++ []), name :: openElements⟩ '>' =
      .ok (some (.finish name), ⟨.text [], openElements⟩) := by
    simp [step, stepEndTag, endTagName_reverse named]
  refine reads_opening _ _ (.silent rfl rfl ?_)
  exact (reads_endTag_plain _ _ (plain_of_isName named)).append (.completes closing rfl)

/-! ### Comments and instructions

A comment would end at a `>` after two hyphens.  Between the hyphens that begin it and
those that end it there are no two side by side: the text begins with a space, and in
the line that follows any two hyphens are kept apart. -/

theorem step_comment_of_ne {c : Char} (other : c ≠ '>') :
    step ⟨.comment seen, openElements⟩ c = .ok (none, ⟨.comment (c :: seen), openElements⟩) := by
  simp [step, other, moved]

theorem step_comment_of_apart (c : Char)
    (apart : Text.startsWith ['-', '-'] seen = false) :
    step ⟨.comment seen, openElements⟩ c = .ok (none, ⟨.comment (c :: seen), openElements⟩) := by
  simp [step, apart, moved]

/-- The text before a character ends with no hyphen, or with a single one. -/
def EndsApart (afterHyphen : Bool) (seen : List Char) : Prop :=
  if afterHyphen then ∃ rest, seen = '-' :: rest ∧ rest.head? ≠ some '-' else seen.head? ≠ some '-'

theorem EndsApart.startsWith {seen : List Char} {afterHyphen : Bool}
    (apart : EndsApart afterHyphen seen) : Text.startsWith ['-', '-'] seen = false := by
  cases afterHyphen with
  | false =>
    have other : seen.head? ≠ some '-' := by simpa [EndsApart] using apart
    cases seen with
    | nil => rfl
    | cons c seen =>
      have : ¬ '-' = c := fun same => other (by rw [← same, List.head?_cons])
      simp [Text.startsWith, List.isPrefixOf, this]
  | true =>
    obtain ⟨rest, rfl, other⟩ : ∃ rest, seen = '-' :: rest ∧ rest.head? ≠ some '-' := by
      simpa [EndsApart] using apart
    cases rest with
    | nil => rfl
    | cons c rest =>
      have : ¬ '-' = c := fun same => other (by rw [← same, List.head?_cons])
      simp [Text.startsWith, List.isPrefixOf, this]

theorem reads_spreadHyphens (line : List Char) (afterHyphen : Bool)
    (apart : EndsApart afterHyphen seen) :
    Reads ⟨.comment seen, openElements⟩ (spreadHyphens afterHyphen line) []
      ⟨.comment ((spreadHyphens afterHyphen line).reverse ++ seen), openElements⟩ := by
  induction line generalizing seen afterHyphen with
  | nil => exact .nil _
  | cons c line ih =>
    rw [spreadHyphens]
    -- A hyphen after a hyphen gets a space in front of it, which keeps them apart.
    by_cases second : c = '-' ∧ afterHyphen = true
    · rcases second with ⟨rfl, rfl⟩
      have rest := ih ('-' :: ' ' :: seen) true (by simp [EndsApart])
      rw [if_pos ⟨rfl, rfl⟩, List.reverse_cons, List.reverse_cons, List.append_assoc,
        List.append_assoc]
      exact .silent (step_comment_of_ne _ _ (by decide)) rfl
        (.silent (step_comment_of_ne _ _ (by decide)) rfl rest)
    · have apart' : EndsApart (decide (c = '-')) (c :: seen) := by
        by_cases hyphen : c = '-'
        · have first : afterHyphen = false := by
            rw [← Bool.not_eq_true]
            exact fun after => second ⟨hyphen, after⟩
          subst first
          simpa [EndsApart, hyphen] using apart
        · simp [EndsApart, hyphen]
      have rest := ih (c :: seen) _ apart'
      rw [if_neg second, List.reverse_cons, List.append_assoc]
      exact .silent (step_comment_of_apart _ _ c apart.startsWith) rfl rest

theorem reads_comment (line : List Char) :
    Reads ⟨.text seen, openElements⟩ (comment (commentBody line))
      ((textEvent seen).toList ++ [.comment (commentBody line)]) ⟨.text [], openElements⟩ := by
  have body := reads_spreadHyphens [' ', '-', '-'] openElements line false
    (by simp [EndsApart])
  have closing : step ⟨.comment ('-' :: '-' :: ' ' :: ((spreadHyphens false line).reverse
      ++ [' ', '-', '-'])), openElements⟩ '>' =
      .ok (some (.comment (commentBody line)), ⟨.text [], openElements⟩) := by
    simp [step, Text.startsWith, enclosed?, Text.after?, completed, commentBody]
  have ending : Reads ⟨.comment ((spreadHyphens false line).reverse ++ [' ', '-', '-']),
      openElements⟩ [' ', '-', '-', '>'] [.comment (commentBody line)] ⟨.text [], openElements⟩ :=
    .silent (step_comment_of_ne _ _ (by decide)) rfl
      (.silent (step_comment_of_ne _ _ (by decide)) rfl
        (.silent (step_comment_of_ne _ _ (by decide)) rfl (.completes closing rfl)))
  have whole := reads_opening seen openElements (.silent (c := '!') rfl rfl (.silent (c := '-') rfl
    rfl (.silent (step_comment_of_ne _ _ (by decide)) rfl (.silent
      (step_comment_of_ne _ _ (by decide)) rfl (body.append ending)))))
  simpa [comment, commentBody] using whole

theorem reads_instruction_plain (plain : '>' ∉ chars) :
    Reads ⟨.instruction seen, openElements⟩ chars []
      ⟨.instruction (chars.reverse ++ seen), openElements⟩ := by
  apply reads_gathered openElements seen
  · intro c inside seen
    have other : c ≠ '>' := by
      rintro rfl
      exact plain inside
    simp [step, other, moved]
  · intro seen
    rfl

/-- An instruction ends at the first `>`, which the question mark before it makes its end. -/
theorem reads_instruction {content : List Char} (plain : '>' ∉ content) :
    Reads ⟨.text seen, openElements⟩ ('<' :: '?' :: (content ++ ['?', '>']))
      ((textEvent seen).toList ++ [.other]) ⟨.text [], openElements⟩ := by
  have closing : step ⟨.instruction ('?' :: (content.reverse ++ [])), openElements⟩ '>' =
      .ok (some .other, ⟨.text [], openElements⟩) := by
    simp [step, completed]
  refine reads_opening seen openElements (.silent rfl rfl ?_)
  exact (reads_instruction_plain [] openElements plain).append
    (.silent rfl rfl (.completes closing rfl))

theorem reads_declaration {charset : String} (plain : '>' ∉ charset.toList) :
    Reads ⟨.text seen, openElements⟩ (declaration charset) ((textEvent seen).toList ++ [.other])
      ⟨.text [], openElements⟩ := by
  obtain ⟨fixed, opening, plain'⟩ : ∃ fixed, "<?xml version=\"1.0\" encoding=\"".toList =
      '<' :: '?' :: fixed ∧ '>' ∉ fixed :=
    ⟨"xml version=\"1.0\" encoding=\"".toList, by decide, by decide⟩
  have content : '>' ∉ fixed ++ charset.toList ++ ['"'] := by
    simp [plain, plain']
  have whole := reads_instruction seen openElements content
  unfold declaration
  simp only [opening]
  simpa using whole

end FlatFile.Markup.Reader
