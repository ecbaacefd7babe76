/-
  FlatFile/Proofs/Markup/Sound.lean
  =================================
  **Documents of ready values are well-formed.**

  A value that is ready for a document need not be the escaped form of a text, so a
  document of such values is not the text of trees.  But its tags are sound, and so is the
  text between them.  `Content` is a stretch that can stand inside of an element: whatever
  elements are open before it are the ones open after it, and it is read as trees
  (`Content.append`, `content_element`).  One element of such content, after blanks, makes
  a well-formed document (`exists_whole`, `Whole.wellFormed`).

  All of this is kept when a text goes through a charset that has the names in it
  (`conveyed_startTag` and those after it).
-/
import FlatFile.Proofs.Markup.Forest
import FlatFile.Proofs.Markup.Ready

namespace FlatFile.Markup

/-! ### Tags -/

/-- An attribute with a name, and a value that is ready for its quotes. -/
structure Attribute.Sound (written : Attribute) : Prop where
  named : isName written.name = true
  ready : Ready true written.value

theorem Attribute.Sound.wellFormed {written : Attribute} (sound : written.Sound) :
    written.WellFormed :=
  ⟨sound.named, sound.ready.quote_not_mem⟩

/-- **A sound tag**: a name and sound attributes with different names, and nothing else. -/
structure Tag.Sound (tag : Tag) : Prop where
  named : isName tag.name = true
  attributes : ∃ attributes : List Attribute, tag.tail = attributes.flatMap Attribute.render
    ∧ (attributes.map Attribute.name).Nodup ∧ ∀ written ∈ attributes, written.Sound

variable {name : List Char} {attributes : List Attribute}

theorem sound_tag (named : isName name = true) (distinct : (attributes.map Attribute.name).Nodup)
    (sound : ∀ written ∈ attributes, written.Sound) :
    Tag.Sound ⟨name, attributes.flatMap Attribute.render⟩ :=
  ⟨named, attributes, rfl, distinct, sound⟩

/-- The attributes of a sound tag are all read, and their values are ready. -/
theorem Tag.Sound.ready_attributes {tag : Tag} (sound : tag.Sound) :
    ∀ pair ∈ tag.attributes, Ready true pair.2 := by
  obtain ⟨attributes, tail, distinct, each⟩ := sound.attributes
  have read : tag.attributes = attributes.map fun written => (written.name, written.value) := by
    have all := attributes_flatMap_render (fun one inside => (each one inside).wellFormed) distinct
      tag.name
    rwa [← tail] at all
  intro pair inside
  rw [read] at inside
  rcases List.mem_map.mp inside with ⟨written, member, rfl⟩
  exact (each written member).ready

theorem Tag.Sound.exists_meaning {tag : Tag} (sound : tag.Sound) :
    ∃ pairs, meaning? tag = some pairs := by
  have ready := sound.ready_attributes
  unfold meaning?
  generalize tag.attributes = given at ready
  induction given with
  | nil => exact ⟨[], rfl⟩
  | cons pair pairs ih =>
    rcases List.forall_mem_cons.mp ready with ⟨here, others⟩
    obtain ⟨value, resolved⟩ := here.resolves
    obtain ⟨values, rest⟩ := ih others
    refine ⟨(pair.1, value) :: values, ?_⟩
    rw [List.mapM_cons, rest]
    simp only [resolved]
    rfl

theorem Ready.exists_textNodes {raw : List Char} (ready : Ready false raw) :
    ∃ nodes, textNodes? raw = some nodes := by
  unfold textNodes?
  split
  · exact ⟨[], rfl⟩
  · obtain ⟨text, resolved⟩ := ready.resolves
    exact ⟨[.text text], by rw [resolved]; rfl⟩

/-! ### Passages -/

/-- **A sound passage**: the text before the piece of markup is ready, and if it is a tag that
    opens an element, the tag is sound. -/
structure Passage.Sound (passage : Passage) : Prop where
  before : Ready false passage.before
  markup : passage.event.raw? = none
  tag : ∀ tag, passage.event = .start tag ∨ passage.event = .empty tag → tag.Sound

/-- **Passages that open no element without closing it**, and no other: they give trees beside
    those at hand. -/
structure Balanced (between : List Passage) : Prop where
  sound : ∀ passage ∈ between, passage.Sound
  grows : ∃ added, ∀ stack nodes rest,
    grow stack nodes (between ++ rest) = grow stack (nodes ++ added) rest

variable {between more : List Passage} {before last : List Char}

theorem balanced_nil : Balanced [] := by
  constructor
  · intro passage inside
    cases inside
  · refine ⟨[], ?_⟩
    intro stack nodes rest
    rw [List.nil_append, List.append_nil]

theorem Balanced.append (first : Balanced between) (second : Balanced more) :
    Balanced (between ++ more) := by
  obtain ⟨added, grows⟩ := first.grows
  obtain ⟨added', grows'⟩ := second.grows
  constructor
  · exact List.forall_mem_append.mpr ⟨first.sound, second.sound⟩
  · refine ⟨added ++ added', ?_⟩
    intro stack nodes rest
    rw [List.append_assoc, grows, grows', List.append_assoc]

theorem balanced_comment (ready : Ready false before) (content : List Char) :
    Balanced [⟨before, .comment content⟩] := by
  obtain ⟨texts, resolved⟩ := ready.exists_textNodes
  constructor
  · exact List.forall_mem_singleton.mpr ⟨ready, rfl, fun tag same => by simp at same⟩
  · refine ⟨texts ++ [.comment content], ?_⟩
    intro stack nodes rest
    simp [grow, resolved]

theorem balanced_other (ready : Ready false before) : Balanced [⟨before, .other⟩] := by
  obtain ⟨texts, resolved⟩ := ready.exists_textNodes
  constructor
  · exact List.forall_mem_singleton.mpr ⟨ready, rfl, fun tag same => by simp at same⟩
  · refine ⟨texts, ?_⟩
    intro stack nodes rest
    simp [grow, resolved]

theorem balanced_empty (ready : Ready false before) {tag : Tag} (sound : tag.Sound) :
    Balanced [⟨before, .empty tag⟩] := by
  obtain ⟨texts, resolved⟩ := ready.exists_textNodes
  obtain ⟨pairs, meaning⟩ := sound.exists_meaning
  constructor
  · refine List.forall_mem_singleton.mpr ⟨ready, rfl, ?_⟩
    rintro other (same | same)
    · cases same
    · cases same
      exact sound
  · refine ⟨texts ++ [.element tag.name pairs []], ?_⟩
    intro stack nodes rest
    simp [grow, resolved, meaning]

/-- **An element is read as a tree**, after the text before it. -/
theorem exists_element (ready : Ready false before) {tag : Tag} (sound : tag.Sound)
    (inside : Balanced between) (ready' : Ready false last) :
    ∃ texts attributes content, textNodes? before = some texts ∧ ∀ stack nodes rest,
      grow stack nodes (⟨before, .start tag⟩ :: (between ++ ⟨last, .finish name⟩ :: rest)) =
        grow stack (nodes ++ (texts ++ [.element tag.name attributes content])) rest := by
  obtain ⟨texts, resolved⟩ := ready.exists_textNodes
  obtain ⟨pairs, meaning⟩ := sound.exists_meaning
  obtain ⟨added, grows⟩ := inside.grows
  obtain ⟨texts', resolved'⟩ := ready'.exists_textNodes
  refine ⟨texts, pairs, added ++ texts', resolved, ?_⟩
  intro stack nodes rest
  simp [grow, resolved, meaning, grows, resolved']

theorem balanced_element (ready : Ready false before) {tag : Tag} (sound : tag.Sound)
    (inside : Balanced between) (ready' : Ready false last) (name : List Char) :
    Balanced (⟨before, .start tag⟩ :: (between ++ [⟨last, .finish name⟩])) := by
  obtain ⟨texts, attributes, content, -, grows⟩ := @exists_element name between before last ready
    tag sound inside ready'
  constructor
  · refine List.forall_mem_cons.mpr ⟨⟨ready, rfl, ?_⟩, List.forall_mem_append.mpr
      ⟨inside.sound, List.forall_mem_singleton.mpr ⟨ready', rfl, fun tag same => by simp at same⟩⟩⟩
    rintro other (same | same)
    · cases same
      exact sound
    · cases same
  · refine ⟨texts ++ [.element tag.name attributes content], ?_⟩
    intro stack nodes rest
    rw [List.cons_append, List.append_assoc, List.singleton_append, grows]

/-! ### Content -/

/-- **A stretch of a document that can be content of an element**, with the text at hand before it
    and after it. -/
def Content (text chars text' : List Char) : Prop :=
  Ready false text → Ready false text' ∧ ∃ between, Balanced between
    ∧ ∀ elements, Spans text elements chars between text' elements

variable {text text' text'' chars others raw : List Char}

theorem content_nil (text : List Char) : Content text [] text := by
  intro ready
  exact ⟨ready, [], balanced_nil, fun elements => .nil text elements⟩

theorem Content.append (first : Content text chars text') (second : Content text' others text'') :
    Content text (chars ++ others) text'' := by
  intro ready
  obtain ⟨ready', between, balanced, spans⟩ := first ready
  obtain ⟨ready'', between', balanced', spans'⟩ := second ready'
  exact ⟨ready'', between ++ between', balanced.append balanced',
    fun elements => (spans elements).append (spans' elements)⟩

theorem content_raw (ready : Ready false raw) (text : List Char) :
    Content text raw (text ++ raw) := by
  intro ready'
  exact ⟨ready'.append ready, [], balanced_nil,
    fun elements => spans_raw ready.rawText text elements⟩

theorem content_comment (text line : List Char) :
    Content text (comment (commentBody line)) [] := by
  intro ready
  exact ⟨.nil, _, balanced_comment ready _, fun elements => spans_comment text elements line⟩

section Elements

variable (text) (named : isName name = true) (sound : ∀ written ∈ attributes, written.Sound)

include named sound

/-- The passages of an element, and those of its content. -/
theorem exists_spans_element (inside : Content [] chars text') :
    Ready false text' ∧ ∃ between, Balanced between ∧ ∀ elements,
      Spans text elements (startTag name attributes ++ chars ++ endTag name)
        (⟨text, .start ⟨name, attributes.flatMap Attribute.render⟩⟩
          :: (between ++ [⟨text', .finish name⟩])) [] elements := by
  obtain ⟨ready', between, balanced, spans⟩ := inside .nil
  have wellFormed := fun one inside => (sound one inside).wellFormed
  refine ⟨ready', between, balanced, ?_⟩
  intro elements
  have opened := (spans_startTag text elements named wellFormed).append (spans (name :: elements))
  exact opened.append (spans_endTag text' elements named)

variable (distinct : (attributes.map Attribute.name).Nodup)

include distinct

theorem content_emptyTag : Content text (emptyTag name attributes) [] := by
  intro ready
  have wellFormed := fun one inside => (sound one inside).wellFormed
  exact ⟨.nil, _, balanced_empty ready (sound_tag named distinct sound),
    fun elements => spans_emptyTag text elements named wellFormed⟩

/-- **An element around content is content.** -/
theorem content_element (inside : Content [] chars text') :
    Content text (startTag name attributes ++ chars ++ endTag name) [] := by
  intro ready
  obtain ⟨ready', between, balanced, spans⟩ := exists_spans_element text named sound inside
  exact ⟨.nil, _, balanced_element ready (sound_tag named distinct sound) balanced ready' name, spans⟩

end Elements

/-! ### In a charset -/

section

variable [MultibyteCodecs]

/-- A name that a charset has and gives back. -/
structure NameIn (charset : Charset) (name : List Char) : Prop where
  named : isName name = true
  known : ∀ c ∈ name, charset.keeps c = true

/-- A sound attribute under a name that a charset has. -/
structure Attribute.SoundIn (charset : Charset) (written : Attribute) : Prop where
  name : NameIn charset written.name
  ready : Ready true written.value

/-- An attribute as a reader gets it. -/
def Attribute.conveyed (charset : Charset) (written : Attribute) : Attribute :=
  { written with value := charset.conveyed written.value }

variable {charset : Charset}

theorem keeps_of_isNameChar (charset : Charset) [charset.Lawful] {c : Char}
    (char : isNameChar c = true) (ascii : c.toNat < 0x80) : charset.keeps c = true := by
  apply charset.keeps_of_ascii ascii
  simp only [MultibyteSet.isShift, Bool.or_eq_false_iff, beq_eq_false_iff_ne]
  exact ⟨⟨ne_of_isNameChar char (by decide), ne_of_isNameChar char (by decide)⟩,
    ne_of_isNameChar char (by decide)⟩

/-- Every charset has the names in ASCII. -/
theorem nameIn_of_ascii (charset : Charset) [charset.Lawful] (named : isName name = true)
    (ascii : Text.isAscii name = true) : NameIn charset name := by
  constructor
  · exact named
  · intro c inside
    exact keeps_of_isNameChar charset (isNameChar_of_mem named inside)
      (Text.isAscii_iff.mp ascii c inside)

theorem NameIn.append [charset.Lawful] (given : NameIn charset name) {more : List Char}
    (chars : ∀ c ∈ more, isNameChar c = true) (ascii : Text.isAscii more = true) :
    NameIn charset (name ++ more) := by
  constructor
  · exact isName_append given.named chars
  · intro c inside
    rcases List.mem_append.mp inside with inside | inside
    · exact given.known c inside
    · exact keeps_of_isNameChar charset (chars c inside) (Text.isAscii_iff.mp ascii c inside)

/-- Attributes with meanings are sound, if the charset has their names. -/
theorem soundIn_written_of_nameIn {facts : List (List Char × List Char)}
    (keys : ∀ key ∈ facts.map Prod.fst, NameIn charset key) :
    ∀ one ∈ written facts, one.SoundIn charset := by
  intro one inside
  rcases List.mem_map.mp inside with ⟨pair, member, rfl⟩
  exact ⟨keys pair.1 (List.mem_map_of_mem member), ready_escape true pair.2⟩

/-- Attributes with meanings are sound, if their names are in ASCII. -/
theorem soundIn_written (charset : Charset) [charset.Lawful] {facts : List (List Char × List Char)}
    (keys : ∀ key ∈ facts.map Prod.fst, isName key = true)
    (ascii : ∀ key ∈ facts.map Prod.fst, Text.isAscii key = true) :
    ∀ one ∈ written facts, one.SoundIn charset :=
  soundIn_written_of_nameIn fun key inside =>
    nameIn_of_ascii charset (keys key inside) (ascii key inside)

theorem names_conveyed (charset : Charset) (attributes : List Attribute) :
    (attributes.map (Attribute.conveyed charset)).map Attribute.name =
      attributes.map Attribute.name := by
  rw [List.map_map]
  rfl

variable [charset.Lawful]

theorem Attribute.SoundIn.conveyed {written : Attribute} (sound : written.SoundIn charset) :
    (written.conveyed charset).Sound :=
  ⟨sound.name.named, sound.ready.conveyed charset⟩

theorem sound_conveyed (sound : ∀ written ∈ attributes, written.SoundIn charset) :
    ∀ written ∈ attributes.map (Attribute.conveyed charset), written.Sound := by
  intro one inside
  rcases List.mem_map.mp inside with ⟨written, member, rfl⟩
  exact (sound written member).conveyed

theorem Attribute.SoundIn.conveyed_render {written : Attribute}
    (sound : written.SoundIn charset) :
    charset.conveyed written.render = (written.conveyed charset).render := by
  have blank : charset.conveyed [' '] = [' '] := charset.conveyed_of_direct (by decide)
  have equals : charset.conveyed ['=', '"'] = ['=', '"'] := charset.conveyed_of_direct (by decide)
  have quote : charset.conveyed ['"'] = ['"'] := charset.conveyed_of_direct (by decide)
  have parts : written.render = [' '] ++ written.name ++ ['=', '"'] ++ written.value ++ ['"'] := rfl
  simp only [parts, Charset.conveyed_append, blank, equals, quote,
    Charset.conveyed_eq_self sound.name.known]
  rfl

section Tags

variable (known : ∀ c ∈ name, charset.keeps c = true)

include known

theorem conveyed_endTag : charset.conveyed (endTag name) = endTag name := by
  have opening : charset.conveyed ['<', '/'] = ['<', '/'] := charset.conveyed_of_direct (by decide)
  have closing : charset.conveyed ['>'] = ['>'] := charset.conveyed_of_direct (by decide)
  rw [endTag, Charset.conveyed_append, Charset.conveyed_append, opening,
    Charset.conveyed_eq_self known, closing]

variable (sound : ∀ written ∈ attributes, written.SoundIn charset)

include sound

theorem conveyed_renderHead :
    charset.conveyed (renderHead name attributes) =
      renderHead name (attributes.map (Attribute.conveyed charset)) := by
  have values : charset.conveyed (attributes.flatMap Attribute.render) =
      (attributes.map (Attribute.conveyed charset)).flatMap Attribute.render := by
    induction attributes with
    | nil => rfl
    | cons written attributes ih =>
      rcases List.forall_mem_cons.mp sound with ⟨here, others⟩
      rw [List.flatMap_cons, Charset.conveyed_append, here.conveyed_render, ih others]
      rfl
  rw [renderHead, Charset.conveyed_append, Charset.conveyed_eq_self known, values, renderHead]

theorem conveyed_startTag :
    charset.conveyed (startTag name attributes) =
      startTag name (attributes.map (Attribute.conveyed charset)) := by
  have opening : charset.conveyed ['<'] = ['<'] := charset.conveyed_of_direct (by decide)
  have closing : charset.conveyed ['>'] = ['>'] := charset.conveyed_of_direct (by decide)
  have parts : startTag name attributes = ['<'] ++ renderHead name attributes ++ ['>'] := rfl
  simp only [parts, Charset.conveyed_append, opening, closing, conveyed_renderHead known sound]
  rfl

theorem conveyed_emptyTag :
    charset.conveyed (emptyTag name attributes) =
      emptyTag name (attributes.map (Attribute.conveyed charset)) := by
  have opening : charset.conveyed ['<'] = ['<'] := charset.conveyed_of_direct (by decide)
  have closing : charset.conveyed ['/', '>'] = ['/', '>'] := charset.conveyed_of_direct (by decide)
  have parts : emptyTag name attributes = ['<'] ++ renderHead name attributes ++ ['/', '>'] := rfl
  simp only [parts, Charset.conveyed_append, opening, closing, conveyed_renderHead known sound]
  rfl

end Tags

section Elements

variable (text) (given : NameIn charset name) (sound : ∀ written ∈ attributes, written.SoundIn charset)
  (distinct : (attributes.map Attribute.name).Nodup)

include given sound distinct

theorem content_conveyed_emptyTag :
    Content text (charset.conveyed (emptyTag name attributes)) [] := by
  rw [conveyed_emptyTag given.known sound]
  apply content_emptyTag text given.named (sound_conveyed sound)
  rwa [names_conveyed]

theorem content_conveyed_element (inside : Content [] (charset.conveyed chars) text') :
    Content text (charset.conveyed (startTag name attributes ++ chars ++ endTag name)) [] := by
  rw [Charset.conveyed_append, Charset.conveyed_append, conveyed_startTag given.known sound,
    conveyed_endTag given.known]
  apply content_element text given.named (sound_conveyed sound) _ inside
  rwa [names_conveyed]

end Elements

omit [MultibyteCodecs] in
/-- Hyphens are spread in what comes after a text without any as if that was not there. -/
theorem spreadHyphens_append (afterHyphen : Bool) (hyphenless : '-' ∉ text) (rest : List Char) :
    spreadHyphens afterHyphen (text ++ rest) =
      text ++ spreadHyphens (afterHyphen && text.isEmpty) rest := by
  induction text generalizing afterHyphen with
  | nil => rw [List.nil_append, List.isEmpty_nil, Bool.and_true, List.nil_append]
  | cons c text ih =>
    rw [List.mem_cons, not_or] at hyphenless
    have other : c ≠ '-' := Ne.symm hyphenless.1
    rw [List.cons_append, spreadHyphens, if_neg (fun same => other same.1), ih _ hyphenless.2]
    simp [other]

theorem hyphen_not_mem_conveyedChar (charset : Charset) [charset.Lawful] {c : Char}
    (other : c ≠ '-') : '-' ∉ charset.conveyedChar c := by
  intro inside
  rw [Charset.conveyedChar] at inside
  split at inside
  · rename_i known
    exact Charset.readChar_ne known other (by decide) (by decide)
      (List.mem_singleton.mp inside).symm
  · simp only [Charset.characterReference, List.mem_append, List.mem_cons, List.not_mem_nil,
      or_false] at inside
    rcases inside with ((first | second) | digit) | last
    · cases first
    · cases second
    · exact absurd (Text.isDigit_of_mem_decimal digit) (by decide)
    · cases last

/-- A reference has no hyphens, so they are spread alike before and after the charset. -/
theorem conveyed_spreadHyphens (charset : Charset) [charset.Lawful] (afterHyphen : Bool)
    (line : List Char) :
    charset.conveyed (spreadHyphens afterHyphen line) =
      spreadHyphens afterHyphen (charset.conveyed line) := by
  have hyphen : charset.conveyedChar '-' = ['-'] :=
    charset.conveyedChar_of_ascii (by decide) (by decide)
  have blank : charset.conveyedChar ' ' = [' '] :=
    charset.conveyedChar_of_ascii (by decide) (by decide)
  induction line generalizing afterHyphen with
  | nil => rfl
  | cons c line ih =>
    by_cases dash : c = '-'
    · subst dash
      cases afterHyphen with
      | false => simp [spreadHyphens, Charset.conveyed_cons, hyphen, ih]
      | true => simp [spreadHyphens, Charset.conveyed_cons, hyphen, blank, ih]
    · have nonempty : (charset.conveyedChar c).isEmpty = false := by
        rw [Charset.conveyedChar]
        split
        · rfl
        · rfl
      rw [spreadHyphens, if_neg fun both => dash both.1, Charset.conveyed_cons, ih,
        Charset.conveyed_cons,
        spreadHyphens_append afterHyphen (hyphen_not_mem_conveyedChar charset dash), nonempty,
        Bool.and_false, decide_eq_false dash]

theorem conveyed_commentBody (charset : Charset) [charset.Lawful] (line : List Char) :
    charset.conveyed (commentBody line) = commentBody (charset.conveyed line) := by
  have blank : charset.conveyed [' '] = [' '] := charset.conveyed_of_direct (by decide)
  have parts (line : List Char) : commentBody line = [' '] ++ spreadHyphens false line ++ [' '] := rfl
  rw [parts, parts, Charset.conveyed_append, Charset.conveyed_append, blank, conveyed_spreadHyphens]

theorem conveyed_comment (charset : Charset) [charset.Lawful] (line : List Char) :
    charset.conveyed (comment (commentBody line)) =
      comment (commentBody (charset.conveyed line)) := by
  have opening : charset.conveyed ['<', '!', '-', '-'] = ['<', '!', '-', '-'] :=
    charset.conveyed_of_direct (by decide)
  have closing : charset.conveyed ['-', '-', '>'] = ['-', '-', '>'] :=
    charset.conveyed_of_direct (by decide)
  rw [comment, Charset.conveyed_append, Charset.conveyed_append, opening, closing,
    conveyed_commentBody, comment]

end

/-! ### Documents -/

/-- There is nothing but an element, after blanks. -/
def IsRoot (nodes : List Node) : Prop :=
  ∃ blanks name attributes content, nodes = blanks ++ [.element name attributes content]
    ∧ ∀ node ∈ blanks, ∃ text, node = .text text ∧ ∀ c ∈ text, isMarkupBlank c = true

/-- **A well-formed document**: every tag in it is sound, and every reference can be resolved;
    elements are closed in their order; and there is one element, after blanks. -/
structure WellFormed (text : List Char) : Prop where
  sound : ∃ reported, events text = .ok reported
    ∧ ∀ passage ∈ (passages [] reported).1, passage.Sound
  root : ∃ nodes, forest? text = some nodes ∧ IsRoot nodes

/-- Passages of a whole document. -/
structure Whole (between : List Passage) : Prop where
  sound : ∀ passage ∈ between, passage.Sound
  root : ∃ nodes, grow [] [] between = some ([], nodes) ∧ IsRoot nodes

theorem Whole.wellFormed (whole : Whole between) (spans : Spans [] [] text between [] [])
    (unmarked : text.head? ≠ some '\uFEFF') (nonempty : text ≠ []) : WellFormed text := by
  obtain ⟨reported, read, passed⟩ := events_of_spans spans unmarked nonempty
  obtain ⟨nodes, grown, root⟩ := whole.root
  constructor
  · exact ⟨reported, read, by rw [passed]; exact whole.sound⟩
  · refine ⟨nodes, ?_, root⟩
    simp [forest?, read, passed, grown, Except.toOption, textNodes?]

/-- **An element around content is a whole document**, blanks or a declaration before it or not. -/
theorem exists_whole {lead before : List Char} {declarations : Nat} {blanks : List Node}
    (leads : Spans [] [] lead (List.replicate declarations ⟨[], .other⟩) before [])
    (ready : Ready false before) (read : textNodes? before = some blanks)
    (blank : ∀ node ∈ blanks, ∃ text, node = .text text ∧ ∀ c ∈ text, isMarkupBlank c = true)
    (named : isName name = true) (sound : ∀ written ∈ attributes, written.Sound)
    (distinct : (attributes.map Attribute.name).Nodup) (inside : Content [] chars text') :
    ∃ between, Whole between
      ∧ Spans [] [] (lead ++ (startTag name attributes ++ chars ++ endTag name)) between [] [] := by
  obtain ⟨ready', between, balanced, spans⟩ := exists_spans_element before named sound inside
  have tag := sound_tag named distinct sound
  have element := balanced_element ready tag balanced ready' name
  obtain ⟨texts, pairs, content, resolved, grows⟩ :=
    @exists_element name between before text' ready _ tag balanced ready'
  have same : texts = blanks := Option.some.inj (resolved.symm.trans read)
  refine ⟨_, ⟨?_, blanks ++ [.element name pairs content], ?_, blanks, name, pairs, content, rfl,
    blank⟩, leads.append (spans [])⟩
  · refine List.forall_mem_append.mpr ⟨?_, element.sound⟩
    intro passage inside
    rw [List.eq_of_mem_replicate inside]
    exact (balanced_other .nil).sound _ List.mem_cons_self
  · rw [grow_declarations, grows, same]
    rfl

end FlatFile.Markup
