/-
  FlatFile/Proofs/Markup/Transcoded.lean
  ======================================
  **Trees in a document in any charset.**

  A document is one text to its charset: a character that this lacks becomes a reference
  wherever it stands.  In a text or in a value a reader resolves the reference again, so
  nothing is lost there, unless a multibyte set reads a character back as another one.  A
  comment is not resolved, and shows the text of the reference.  `through` is what this
  makes of trees, and a reader gets it if the charset has their names and gives them back
  (`comesThrough_of_tidy`).

  A document may be cut short, with elements that are still open.  `reading?` reads it as
  far as it goes.
-/
import FlatFile.Proofs.Markup.Sound

namespace FlatFile.Markup

/-! ### Trees up to the end of a text -/

/-- The trees that there are if all open elements end here. -/
def closed : List OpenElement → List Node → List Node
  | [], nodes => nodes
  | inner :: stack, nodes =>
    closed stack (inner.before ++ [.element inner.name inner.attributes nodes])

/-- **The trees of a document as far as it goes**, after the number of elements that are still
    open at its end. -/
def reading? (text : List Char) : Option (Nat × List Node) := do
  let events ← (events text).toOption
  let (stack, nodes) ← grow [] [] (passages [] events).1
  let last ← textNodes? (passages [] events).2
  return (stack.length, closed stack (nodes ++ last))

/-- A document is well-formed if no element is open at its end. -/
theorem forest?_eq_reading? (text : List Char) :
    forest? text = (reading? text).bind fun (opened, nodes) =>
      if opened = 0 then some nodes else none := by
  unfold forest? reading?
  cases events text with
  | error fault => rfl
  | ok reported =>
    cases grown : grow [] [] (passages [] reported).1 with
    | none => simp [Except.toOption, grown]
    | some found =>
      obtain ⟨stack, nodes⟩ := found
      cases read : textNodes? (passages [] reported).2 with
      | none => simp [Except.toOption, grown, read]
      | some last =>
        cases stack with
        | nil => simp [Except.toOption, grown, read, closed]
        | cons inner stack => simp [Except.toOption, grown, read]

theorem reading?_of_forest? {text : List Char} {nodes : List Node}
    (whole : forest? text = some nodes) : reading? text = some (0, nodes) := by
  rw [forest?_eq_reading?] at whole
  obtain ⟨⟨opened, read⟩, found, closed⟩ := Option.bind_eq_some_iff.mp whole
  dsimp only at closed
  split at closed
  · rename_i none_open
    cases closed
    rw [found, none_open]
  · cases closed

theorem reading?_of_spans {text after : List Char} {between : List Passage}
    {elements : List (List Char)} {stack : List OpenElement} {nodes last : List Node}
    (spans : Spans [] [] text between after elements)
    (grown : grow [] [] between = some (stack, nodes)) (read : textNodes? after = some last)
    (unmarked : text.head? ≠ some '\uFEFF') (nonempty : text ≠ []) :
    reading? text = some (stack.length, closed stack (nodes ++ last)) := by
  obtain ⟨reported, events, passed⟩ := events_of_spans spans unmarked nonempty
  simp [reading?, events, passed, grown, read, Except.toOption]

/-! ### What a charset makes of trees -/

mutual

/-- The names in a tree, of elements and of attributes. -/
def Node.names : Node → List (List Char)
  | .text _ => []
  | .comment _ => []
  | .element name attributes content => name :: (attributes.map Prod.fst ++ names content)

def names : List Node → List (List Char)
  | [] => []
  | node :: rest => node.names ++ names rest

end

mutual

/-- The comments in a tree. -/
def Node.comments : Node → List (List Char)
  | .text _ => []
  | .comment content => [content]
  | .element _ _ content => comments content

def comments : List Node → List (List Char)
  | [] => []
  | node :: rest => node.comments ++ comments rest

end

mutual

/-- The texts in a tree and the values of its attributes. -/
def Node.texts : Node → List (List Char)
  | .text text => [text]
  | .comment _ => []
  | .element _ attributes content => attributes.map Prod.snd ++ texts content

def texts : List Node → List (List Char)
  | [] => []
  | node :: rest => node.texts ++ texts rest

end

variable [MultibyteCodecs]

mutual

/-- **A tree as a reader gets it** from a document in a charset: what is resolved has the characters
    that are read in the end, a comment is what the charset makes of its text. -/
def Node.through (charset : Charset) : Node → Node
  | .text text => .text (text.map charset.readChar)
  | .comment content => .comment (charset.conveyed content)
  | .element name attributes content =>
    .element name (attributes.map fun (key, value) => (key, value.map charset.readChar))
      (through charset content)

def through (charset : Charset) : List Node → List Node
  | [] => []
  | node :: rest => node.through charset :: through charset rest

end

/-- A charset has the names in some trees and gives them back. -/
def NamesIn (charset : Charset) (nodes : List Node) : Prop :=
  ∀ name ∈ names nodes, ∀ c ∈ name, charset.keeps c = true

def CommentsIn (charset : Charset) (nodes : List Node) : Prop :=
  ∀ content ∈ comments nodes, ∀ c ∈ content, charset.keeps c = true

/-- A charset gives back the texts and the values in some trees, be it from references. -/
def TextsIn (charset : Charset) (nodes : List Node) : Prop :=
  ∀ text ∈ texts nodes, ∀ c ∈ text, charset.readChar c = c

variable {charset : Charset} {nodes more : List Node}

omit [MultibyteCodecs] in
theorem names_append (nodes more : List Node) : names (nodes ++ more) = names nodes ++ names more := by
  induction nodes with
  | nil => rfl
  | cons node nodes ih => simp [names, ih]

theorem through_append (charset : Charset) (nodes more : List Node) :
    through charset (nodes ++ more) = through charset nodes ++ through charset more := by
  induction nodes with
  | nil => rfl
  | cons node nodes ih => simp [through, ih]

theorem map_readChar {text : List Char} (same : ∀ c ∈ text, charset.readChar c = c) :
    text.map charset.readChar = text :=
  (List.map_congr_left same).trans (List.map_id' text)

mutual

theorem Node.through_eq_self {node : Node}
    (given : ∀ text ∈ node.texts, ∀ c ∈ text, charset.readChar c = c)
    (kept : ∀ content ∈ node.comments, ∀ c ∈ content, charset.keeps c = true) :
    node.through charset = node := by
  cases node with
  | text text => rw [Node.through, map_readChar (given text List.mem_cons_self)]
  | comment content =>
    rw [Node.through, Charset.conveyed_eq_self (kept content List.mem_cons_self)]
  | element name attributes content =>
    obtain ⟨values, inner⟩ := List.forall_mem_append.mp given
    have same : attributes.map (fun (key, value) => (key, value.map charset.readChar)) =
        attributes := by
      refine (List.map_congr_left ?_).trans (List.map_id' attributes)
      intro pair inside
      dsimp only
      rw [map_readChar (values pair.2 (List.mem_map_of_mem inside))]
    rw [Node.through, through_eq_self inner kept, same]

/-- **Nothing is lost in a charset that gives back the texts and has the comments.** -/
theorem through_eq_self {nodes : List Node} (given : TextsIn charset nodes)
    (kept : CommentsIn charset nodes) : through charset nodes = nodes := by
  cases nodes with
  | nil => rfl
  | cons node rest =>
    obtain ⟨given', others⟩ := List.forall_mem_append.mp given
    obtain ⟨kept', others'⟩ := List.forall_mem_append.mp kept
    rw [through, Node.through_eq_self given' kept', through_eq_self others others']

end

/-! ### Reading what a charset makes of a text -/

omit [MultibyteCodecs] in
theorem escapeChar_of_not_markup {c : Char} (plain : c ∉ ['<', '>', '&', '\'', '"']) :
    escapeChar c = [c] := by
  simp only [List.mem_cons, List.not_mem_nil, or_false, not_or] at plain
  obtain ⟨lt, gt, amp, apos, quot⟩ := plain
  simp only [escapeChar, lt, gt, amp, apos, quot, if_false]

/-- An escaped character comes as the one that a reader has in the end, or else as a reference to
    that. -/
theorem conveyed_escapeChar (charset : Charset) [charset.Lawful] (c : Char) :
    charset.conveyed (escapeChar c) = escapeChar (charset.readChar c)
      ∨ charset.conveyed (escapeChar c) = Charset.characterReference (charset.readChar c)
        ∧ ¬charset.represents c = true := by
  have same {c : Char} (here : c.toNat < 0x80) (plain : MultibyteSet.isShift c = false)
      (direct : Charset.IsDirect (escapeChar c)) :
      charset.conveyed (escapeChar c) = escapeChar (charset.readChar c) := by
    rw [charset.conveyed_of_direct direct, charset.readChar_of_ascii here plain]
  by_cases markup : c ∈ ['<', '>', '&', '\'', '"']
  · left
    simp only [List.mem_cons, List.not_mem_nil, or_false] at markup
    rcases markup with rfl | rfl | rfl | rfl | rfl
    all_goals exact same (by decide) (by decide) (by decide)
  · rw [escapeChar_of_not_markup markup, Charset.conveyed_cons, Charset.conveyedChar]
    split
    · rename_i known
      -- A charset may put another character in its place, but none that is markup.
      have plain : charset.readChar c ∉ ['<', '>', '&', '\'', '"'] := by
        intro inside
        have other : c ≠ charset.readChar c := fun same => markup (same ▸ inside)
        simp only [List.mem_cons, List.not_mem_nil, or_false] at inside
        refine Charset.readChar_ne known other ?_ ?_ rfl
        · rcases inside with is | is | is | is | is
          all_goals rw [is]; decide
        · rcases inside with is | is | is | is | is
          all_goals rw [is]; decide
      exact .inl (escapeChar_of_not_markup plain).symm
    · rename_i lacking
      exact .inr ⟨List.append_nil _, lacking⟩

theorem unescapeFrom_conveyed (charset : Charset) [charset.Lawful] (text : List Char)
    (total position : Nat) :
    unescapeFrom total position .plain (charset.conveyed (escape text)) =
      .ok (text.map charset.readChar) := by
  induction text generalizing position with
  | nil => rfl
  | cons c text ih =>
    have first : ∃ position', unescapeFrom total position .plain
        (charset.conveyed (escapeChar c) ++ charset.conveyed (escape text)) =
          (unescapeFrom total position' .plain (charset.conveyed (escape text))).map
            (charset.readChar c :: ·) := by
      rcases conveyed_escapeChar charset c with eq | ⟨eq, lacking⟩
      · rw [eq]
        exact unescapeFrom_escapeChar (charset.readChar c) total position _
      · rw [eq]
        apply unescapeFrom_reference
        · intro d inside
          exact ⟨(plain_of_mem_number d inside).1, (plain_of_mem_number d inside).2.1⟩
        · intro _
          exact numbered_decimal (toNat_readChar_ne_zero lacking)
    obtain ⟨position', eq⟩ := first
    have parts : charset.conveyed (escape (c :: text)) =
        charset.conveyed (escapeChar c) ++ charset.conveyed (escape text) :=
      charset.conveyed_append (escapeChar c) (escape text)
    rw [parts, eq, ih]
    rfl

/-- **References mean what they stand for**, also after a charset. -/
theorem unescape_conveyed (charset : Charset) [charset.Lawful] (text : List Char) :
    unescape (charset.conveyed (escape text)) = .ok (text.map charset.readChar) :=
  unescapeFrom_conveyed charset text _ 0

omit [MultibyteCodecs] in
theorem mapM_some {α β : Type} (f : α → Option β) (g : α → β) (list : List α)
    (each : ∀ a, f a = some (g a)) : list.mapM f = some (list.map g) := by
  induction list with
  | nil => rfl
  | cons a list ih => simp [List.mapM_cons, each, ih]

theorem textNodes?_conveyed (charset : Charset) [charset.Lawful] (text : List Char) :
    textNodes? (charset.conveyed (escape text)) = some (through charset (textNodes text)) := by
  have resolved := unescape_conveyed charset text
  rw [textNodes?]
  cases text with
  | nil => rfl
  | cons c text =>
    split
    · rename_i empty
      rw [List.isEmpty_iff.mp empty] at resolved
      cases resolved
    · rw [resolved]
      rfl

/-- The tag of an element as a reader gets it. -/
def conveyedTag (charset : Charset) (name : List Char) (attributes : List (List Char × List Char)) :
    Tag :=
  ⟨name, ((written attributes).map (Attribute.conveyed charset)).flatMap Attribute.render⟩

section Tags

variable {name : List Char} {attributes : List (List Char × List Char)}

theorem conveyedTag_name : (conveyedTag charset name attributes).name = name := rfl

variable (keys : ∀ key ∈ attributes.map Prod.fst, NameIn charset key)

include keys

theorem meaning?_conveyedTag [charset.Lawful] (distinct : (attributes.map Prod.fst).Nodup) :
    meaning? (conveyedTag charset name attributes) =
      some (attributes.map fun (key, value) => (key, value.map charset.readChar)) := by
  have sound := sound_conveyed (soundIn_written_of_nameIn keys)
  have different : (((written attributes).map (Attribute.conveyed charset)).map
      Attribute.name).Nodup := by
    rw [names_conveyed, written, List.map_map]
    exact distinct
  rw [meaning?, conveyedTag,
    attributes_flatMap_render (fun one inside => (sound one inside).wellFormed) different,
    written, List.map_map, List.map_map, List.mapM_map]
  apply mapM_some
  intro pair
  simp [Attribute.conveyed, Attribute.ofText, unescape_conveyed, Except.toOption]

variable (given : NameIn charset name) (text : List Char) (elements : List (List Char))

include given

theorem spans_conveyed_startTag [charset.Lawful] :
    Spans text elements (charset.conveyed (startTag name (written attributes)))
      [⟨text, .start (conveyedTag charset name attributes)⟩] [] (name :: elements) := by
  have sound := soundIn_written_of_nameIn keys
  rw [conveyed_startTag given.known sound]
  apply spans_startTag text elements given.named
  intro one inside
  exact (sound_conveyed sound one inside).wellFormed

theorem spans_conveyed_emptyTag [charset.Lawful] :
    Spans text elements (charset.conveyed (emptyTag name (written attributes)))
      [⟨text, .empty (conveyedTag charset name attributes)⟩] [] elements := by
  have sound := soundIn_written_of_nameIn keys
  rw [conveyed_emptyTag given.known sound]
  apply spans_emptyTag text elements given.named
  intro one inside
  exact (sound_conveyed sound one inside).wellFormed

end Tags

/-! ### Trees -/

/-- **A stretch of a document adds trees**: it spans some passages, from the raw text `before` to
    the raw text `after`, and these add the trees `added` to those at hand. -/
structure Adds (before chars : List Char) (between : List Passage) (after : List Char)
    (added : List Node) : Prop where
  spans : ∀ elements, Spans before elements chars between after elements
  grows : ∀ stack nodes rest, grow stack nodes (between ++ rest) = grow stack (nodes ++ added) rest

omit [MultibyteCodecs] in
theorem Adds.append {before chars middle chars' after : List Char}
    {between between' : List Passage} {added added' : List Node}
    (first : Adds before chars between middle added)
    (second : Adds middle chars' between' after added') :
    Adds before (chars ++ chars') (between ++ between') after (added ++ added') := by
  constructor
  · intro elements
    exact (first.spans elements).append (second.spans elements)
  · intro stack nodes rest
    rw [List.append_assoc, first.grows, second.grows, List.append_assoc]

omit [MultibyteCodecs] in
theorem adds_nothing (text : List Char) : Adds text [] [] text [] := by
  constructor
  · intro elements
    exact .nil text elements
  · intro stack nodes rest
    rw [List.nil_append, List.append_nil]

/-- **Trees after a text come through a charset**: a reader gets them as `through` says, but for a
    text at their end that may go on. -/
def ComesThrough (charset : Charset) (text : List Char) (nodes : List Node) : Prop :=
  ∃ between added last,
    Adds (charset.conveyed (escape text)) (charset.conveyed (render nodes)) between
        (charset.conveyed (escape last)) (through charset added)
      ∧ textNodes text ++ nodes = added ++ textNodes last

/-- A piece of markup takes the text before it with it. -/
theorem ComesThrough.cons {text : List Char} {node : Node} {between : List Passage}
    (first : Adds (charset.conveyed (escape text)) (charset.conveyed node.render) between []
      (through charset (textNodes text ++ [node])))
    (rest : ComesThrough charset [] nodes) : ComesThrough charset text (node :: nodes) := by
  obtain ⟨between', added, last, second, same⟩ := rest
  refine ⟨between ++ between', textNodes text ++ [node] ++ added, last, ?_, ?_⟩
  · rw [render, charset.conveyed_append, through_append]
    exact first.append second
  · have filled : nodes = added ++ textNodes last := same
    rw [filled]
    simp

theorem adds_comment (charset : Charset) [charset.Lawful] (text line : List Char) :
    Adds (charset.conveyed (escape text)) (charset.conveyed (comment (commentBody line)))
      [⟨charset.conveyed (escape text), .comment (charset.conveyed (commentBody line))⟩] []
      (through charset (textNodes text ++ [.comment (commentBody line)])) := by
  constructor
  · intro elements
    rw [conveyed_comment, conveyed_commentBody]
    exact spans_comment _ elements _
  · intro stack nodes rest
    simp [grow, textNodes?_conveyed, through_append, through, Node.through]

/-- An element is added with its content, whether that is empty or not. -/
theorem exists_adds_element [charset.Lawful] (text : List Char) {name : List Char}
    {attributes : List (List Char × List Char)} {content : List Node} (given : NameIn charset name)
    (keys : ∀ key ∈ attributes.map Prod.fst, NameIn charset key)
    (distinct : (attributes.map Prod.fst).Nodup) (inside : ComesThrough charset [] content) :
    ∃ between, Adds (charset.conveyed (escape text))
      (charset.conveyed (Node.element name attributes content).render) between []
      (through charset (textNodes text ++ [.element name attributes content])) := by
  have meaning := @meaning?_conveyedTag _ charset name attributes keys _ distinct
  rw [Node.render]
  split
  · rename_i empty
    rw [List.isEmpty_iff.mp empty]
    refine ⟨_, fun elements => spans_conveyed_emptyTag keys given _ elements, ?_⟩
    intro stack nodes rest
    simp [grow, textNodes?_conveyed, meaning, conveyedTag_name, through_append, through,
      Node.through]
  · -- The content grows on an empty level of its own, which the end tag puts below.
    obtain ⟨between, added, last, content', same⟩ := inside
    have filled : content = added ++ textNodes last := same
    have spans (elements : List (List Char)) : Spans (charset.conveyed (escape text)) elements
        (charset.conveyed (startTag name (written attributes) ++ render content ++ endTag name))
        ([⟨charset.conveyed (escape text), .start (conveyedTag charset name attributes)⟩] ++ between
          ++ [⟨charset.conveyed (escape last), .finish name⟩]) [] elements := by
      rw [charset.conveyed_append, charset.conveyed_append, conveyed_endTag given.known]
      have opened := spans_conveyed_startTag keys given (charset.conveyed (escape text)) elements
      exact (opened.append (content'.spans _)).append (spans_endTag _ elements given.named)
    refine ⟨_, spans, ?_⟩
    intro stack nodes rest
    simp [grow, textNodes?_conveyed, meaning, conveyedTag_name, content'.grows, filled,
      through_append, through, Node.through]

/-- The names of an element are in a charset if those of the trees are. -/
theorem NamesIn.element {name : List Char} {attributes : List (List Char × List Char)}
    {content rest : List Node} (known : NamesIn charset (.element name attributes content :: rest))
    (named : isName name = true) (keys : ∀ key ∈ attributes.map Prod.fst, isName key = true) :
    NameIn charset name ∧ (∀ key ∈ attributes.map Prod.fst, NameIn charset key)
      ∧ NamesIn charset content ∧ NamesIn charset rest := by
  obtain ⟨here, others⟩ := List.forall_mem_append.mp known
  obtain ⟨own, inner⟩ := List.forall_mem_cons.mp here
  obtain ⟨keys', content'⟩ := List.forall_mem_append.mp inner
  exact ⟨⟨named, own⟩, fun key inside => ⟨keys key inside, keys' key inside⟩, content', others⟩

/-- **Tidy trees come through every charset that has their names.** -/
theorem comesThrough_of_tidy [charset.Lawful] (tidy : Tidy nodes) (known : NamesIn charset nodes)
    (text : List Char) (whole : text = [] ∨ ∀ other more, nodes ≠ .text other :: more) :
    ComesThrough charset text nodes := by
  induction tidy generalizing text with
  | nil => exact ⟨[], [], text, adds_nothing _, List.append_nil _⟩
  | @text inner rest nonempty apart _ ih =>
    -- The text is held back until the markup after it, so there is none before it.
    have start : text = [] := whole.resolve_right fun others => others inner rest rfl
    subst start
    obtain ⟨between, added, last, adds, same⟩ := ih known inner (.inr apart)
    have held (elements : List (List Char)) :
        Spans [] elements (charset.conveyed (escape inner)) [] (charset.conveyed (escape inner))
          elements :=
      spans_raw ((ready_escape false inner).conveyed charset).rawText [] elements
    refine ⟨between, added, last, ⟨?_, adds.grows⟩, ?_⟩
    · intro elements
      rw [render, Node.render, charset.conveyed_append]
      exact (held elements).append (adds.spans elements)
    · simpa [textNodes, nonempty] using same
  | comment line _ ih => exact (ih known [] (.inl rfl)).cons (adds_comment charset text line)
  | element named keys distinct _ _ content_ih ih =>
    obtain ⟨given, keys', content', rest'⟩ := known.element named keys
    obtain ⟨between, adds⟩ :=
      exists_adds_element text given keys' distinct (content_ih content' [] (.inl rfl))
    exact (ih rest' [] (.inl rfl)).cons adds

/-! ### Documents -/

/-- **Reading undoes writing**, for all tidy trees and up to what the charset makes of them: whatever
    characters a value has, it comes back as it was and as nothing else, and it ends where it
    should. -/
theorem forest?_of_comesThrough [charset.Lawful] {lead : List Char} {declarations : Nat}
    (leads : Spans [] [] lead (List.replicate declarations ⟨[], .other⟩) [] [])
    (inside : ComesThrough charset [] nodes) {text : List Char}
    (whole : text = lead ++ charset.conveyed (render nodes)) (unmarked : text.head? ≠ some '\uFEFF')
    (nonempty : text ≠ []) : forest? text = some (through charset nodes) := by
  subst whole
  obtain ⟨between, added, last, adds, same⟩ := inside
  have all : through charset nodes = through charset added ++ through charset (textNodes last) := by
    rw [← through_append]
    exact congrArg (through charset) same
  obtain ⟨reported, read, passed⟩ := events_of_spans (leads.append (adds.spans [])) unmarked nonempty
  have grown : grow [] [] (List.replicate declarations ⟨[], .other⟩ ++ between) =
      some ([], through charset added) := by
    rw [grow_declarations]
    simpa [grow] using adds.grows [] [] []
  simp [forest?, read, passed, grown, textNodes?_conveyed, all, Except.toOption]

/-- **A root around trees that come through is read**, after blanks and declarations, whether it
    ends or the document is cut short. -/
theorem reading?_root [charset.Lawful] {lead before : List Char} {declarations : Nat}
    {blanks content : List Node} {name : List Char} {attributes : List (List Char × List Char)}
    (leads : Spans [] [] lead (List.replicate declarations ⟨[], .other⟩) before [])
    (read : textNodes? before = some blanks) (given : NameIn charset name)
    (keys : ∀ key ∈ attributes.map Prod.fst, NameIn charset key)
    (distinct : (attributes.map Prod.fst).Nodup) (inside : ComesThrough charset [] content)
    (ended : Bool) {text : List Char}
    (whole : text = lead ++ charset.conveyed (startTag name (written attributes) ++ render content
      ++ if ended then endTag name else []))
    (unmarked : text.head? ≠ some '\uFEFF') (nonempty : text ≠ []) :
    reading? text = some (if ended then 0 else 1,
      blanks ++ [(Node.element name attributes content).through charset]) := by
  obtain ⟨between, added, last, adds, same⟩ := inside
  have filled : content = added ++ textNodes last := same
  have meaning := @meaning?_conveyedTag _ charset name attributes keys _ distinct
  have opened := (leads.append (spans_conveyed_startTag keys given before [])).append
    (adds.spans [name])
  have grown (rest : List Passage) :
      grow [] [] (List.replicate declarations ⟨[], .other⟩
          ++ [⟨before, .start (conveyedTag charset name attributes)⟩] ++ between ++ rest) =
        grow [⟨name, attributes.map fun (key, value) => (key, value.map charset.readChar),
          blanks⟩] (through charset added) rest := by
    rw [List.append_assoc, List.append_assoc, grow_declarations]
    simp [grow, read, meaning, conveyedTag_name, adds.grows]
  subst whole
  cases ended with
  | false =>
    have here := grown []
    rw [List.append_nil] at here
    rw [if_neg Bool.false_ne_true, List.append_nil, charset.conveyed_append, ← List.append_assoc]
      at unmarked nonempty ⊢
    rw [reading?_of_spans opened here (textNodes?_conveyed charset last) unmarked nonempty]
    simp [closed, Node.through, filled, through_append]
  | true =>
    have here := grown [⟨charset.conveyed (escape last), .finish name⟩]
    rw [if_pos rfl, charset.conveyed_append, charset.conveyed_append, conveyed_endTag given.known,
      ← List.append_assoc, ← List.append_assoc] at unmarked nonempty ⊢
    have ends := opened.append (spans_endTag (charset.conveyed (escape last)) [] given.named)
    have after : grow [⟨name, attributes.map fun (key, value) =>
        (key, value.map charset.readChar), blanks⟩] (through charset added)
          [⟨charset.conveyed (escape last), .finish name⟩] =
        some ([], blanks ++ [(Node.element name attributes content).through charset]) := by
      simp [grow, textNodes?_conveyed, Node.through, filled, through_append]
    rw [reading?_of_spans ends (here.trans after) rfl unmarked nonempty]
    simp [closed]

end FlatFile.Markup
