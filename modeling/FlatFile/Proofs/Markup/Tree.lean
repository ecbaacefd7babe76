/-
  FlatFile/Proofs/Markup/Tree.lean
  ================================
  **Documents as trees, as they are written.**

  A tree says what a document means: references are resolved, text is whole, and an
  element without content is the same in one tag or in two.  `render` writes trees the
  way this library writes documents.  `Tidy` trees are those a document can have; what
  their text comes to for a reader is their `outline`, the passages that it spans
  (`spans_render`).
-/
import FlatFile.Proofs.Markup.Passages

namespace FlatFile.Markup

/-! ### Trees -/

/-- A part of a document; attributes are names with the values that they mean. -/
inductive Node where
  | text (text : List Char)
  | comment (content : List Char)
  | element (name : List Char) (attributes : List (List Char × List Char)) (content : List Node)

/-- The attributes as they are written. -/
def written (attributes : List (List Char × List Char)) : List Attribute :=
  attributes.map fun (name, value) => .ofText name value

/-- The tag of an element as the reader reports it. -/
def writtenTag (name : List Char) (attributes : List (List Char × List Char)) : Tag :=
  ⟨name, (written attributes).flatMap Attribute.render⟩

/-- The tree of a text, none if there is no text. -/
def textNodes (text : List Char) : List Node := if text.isEmpty then [] else [.text text]

mutual

/-- The text of a tree; an element without content is written in one tag. -/
def Node.render : Node → List Char
  | .text text => escape text
  | .comment content => Markup.comment content
  | .element name attributes content =>
    if content.isEmpty then emptyTag name (written attributes)
    else startTag name (written attributes) ++ render content ++ endTag name

/-- **The text of some trees**, one after the other. -/
def render : List Node → List Char
  | [] => []
  | node :: rest => node.render ++ render rest

end

/-- Trees as a document can have them: a comment is one made of a line, an element has a name
    and attributes with different names, and all text between two pieces of markup is one text. -/
inductive Tidy : List Node → Prop where
  | nil : Tidy []
  | text {text : List Char} {rest : List Node} (nonempty : text ≠ [])
      (whole : ∀ other more, rest ≠ .text other :: more) (more : Tidy rest) :
      Tidy (.text text :: rest)
  | comment (line : List Char) {rest : List Node} (more : Tidy rest) :
      Tidy (.comment (commentBody line) :: rest)
  | element {name : List Char} {attributes : List (List Char × List Char)}
      {content rest : List Node} (named : isName name = true)
      (keys : ∀ key ∈ attributes.map Prod.fst, isName key = true)
      (distinct : (attributes.map Prod.fst).Nodup) (inside : Tidy content) (more : Tidy rest) :
      Tidy (.element name attributes content :: rest)

/-! ### Trees as passages -/

mutual

/-- The passages of a tree after the raw text `before`, and the raw text after the last one. -/
def Node.outline (before : List Char) : Node → List Passage × List Char
  | .text text => ([], before ++ escape text)
  | .comment content => ([⟨before, .comment content⟩], [])
  | .element name attributes content =>
    if content.isEmpty then ([⟨before, .empty (writtenTag name attributes)⟩], [])
    else
      (⟨before, .start (writtenTag name attributes)⟩ :: ((outline [] content).1
        ++ [⟨(outline [] content).2, .finish name⟩]), [])

/-- The passages of some trees. -/
def outline (before : List Char) : List Node → List Passage × List Char
  | [] => ([], before)
  | node :: rest =>
    ((node.outline before).1 ++ (outline (node.outline before).2 rest).1,
      (outline (node.outline before).2 rest).2)

end

variable {name : List Char} {attributes : List (List Char × List Char)} {nodes : List Node}

theorem writtenTag_name : (writtenTag name attributes).name = name := rfl

theorem wellFormed_written (keys : ∀ key ∈ attributes.map Prod.fst, isName key = true) :
    ∀ one ∈ written attributes, one.WellFormed := by
  intro one inside
  rcases List.mem_map.mp inside with ⟨pair, member, rfl⟩
  exact wellFormed_ofText (keys pair.1 (List.mem_map_of_mem member)) pair.2

theorem attributes_writtenTag (keys : ∀ key ∈ attributes.map Prod.fst, isName key = true)
    (distinct : (attributes.map Prod.fst).Nodup) :
    (writtenTag name attributes).attributes =
      attributes.map fun (key, value) => (key, escape value) := by
  have names : (written attributes).map Attribute.name = attributes.map Prod.fst := by
    simp [written, Attribute.ofText, Function.comp_def]
  rw [writtenTag, attributes_flatMap_render (wellFormed_written keys) (names ▸ distinct)]
  simp [written, Attribute.ofText, Function.comp_def]

/-- **The text of tidy trees spans their passages.** -/
theorem spans_render (tidy : Tidy nodes) (text : List Char) (elements : List (List Char)) :
    Spans text elements (render nodes) (outline text nodes).1 (outline text nodes).2 elements := by
  induction tidy generalizing text elements with
  | nil => exact .nil text elements
  | @text inner rest _ _ _ ih =>
    simpa [render, outline, Node.render, Node.outline] using
      (spans_raw (rawText_escape inner) text elements).append (ih _ elements)
  | comment line _ ih =>
    simpa [render, outline, Node.render, Node.outline] using
      (spans_comment text elements line).append (ih [] elements)
  | @element name attributes content rest named keys _ _ _ content_ih ih =>
    have wellFormed := wellFormed_written keys
    by_cases empty : content = []
    · subst empty
      simpa [render, outline, Node.render, Node.outline, writtenTag] using
        (spans_emptyTag text elements named wellFormed).append (ih [] elements)
    · have opened := (spans_startTag text elements named wellFormed).append
        (content_ih [] (name :: elements))
      have closed := opened.append (spans_endTag _ elements named)
      simpa [render, outline, Node.render, Node.outline, writtenTag, empty] using
        closed.append (ih [] elements)

theorem render_append (nodes more : List Node) :
    render (nodes ++ more) = render nodes ++ render more := by
  induction nodes with
  | nil => rfl
  | cons node nodes ih => simp [render, ih]

theorem render_textNodes (text : List Char) : render (textNodes text) = escape text := by
  cases text with
  | nil => rfl
  | cons c text => simp [textNodes, render, Node.render]

theorem tidy_textNodes (text : List Char) : Tidy (textNodes text) := by
  cases text with
  | nil => exact .nil
  | cons c text => exact .text (List.cons_ne_nil c text) (fun _ _ => nofun) .nil

/-! ### Parts on lines of their own -/

/-- The blanks before a part of an element, or before its end. -/
def lineBreak (depth : Nat) : List Char := '\n' :: List.replicate (2 * depth) ' '

/-- The content of an element at some depth whose parts stand on lines of their own. -/
def laidOut (depth : Nat) (parts : List Node) : List Node :=
  parts.flatMap (fun part => [.text (lineBreak (depth + 1)), part]) ++ [.text (lineBreak depth)]

theorem escape_lineBreak (depth : Nat) : escape (lineBreak depth) = lineBreak depth := by
  have blanks : ∀ count, escape (List.replicate count ' ') = List.replicate count ' ' := by
    intro count
    induction count with
    | zero => rfl
    | succ count ih =>
      rw [List.replicate_succ, show escape (' ' :: List.replicate count ' ') =
        ' ' :: escape (List.replicate count ' ') from rfl, ih]
  rw [lineBreak, show escape ('\n' :: List.replicate (2 * depth) ' ') =
    '\n' :: escape (List.replicate (2 * depth) ' ') from rfl, blanks]

theorem render_laidOut (depth : Nat) (parts : List Node) :
    render (laidOut depth parts) =
      parts.flatMap (fun part => lineBreak (depth + 1) ++ part.render) ++ lineBreak depth := by
  rw [laidOut, render_append]
  congr 1
  · induction parts with
    | nil => rfl
    | cons part parts ih =>
      rw [List.flatMap_cons, render_append, ih, List.flatMap_cons]
      simp [render, Node.render, escape_lineBreak]
  · simp [render, Node.render, escape_lineBreak]

theorem outline_laidOut (depth : Nat) {parts : List Node}
    (markup : ∀ part ∈ parts, ∀ text, part ≠ .text text) :
    outline [] (laidOut depth parts) =
      (parts.flatMap fun part => (part.outline (lineBreak (depth + 1))).1, lineBreak depth) := by
  unfold laidOut
  induction parts with
  | nil => simp [outline, Node.outline, escape_lineBreak]
  | cons part parts ih =>
    rcases List.forall_mem_cons.mp markup with ⟨here, others⟩
    have rest := ih others
    have nothing : (part.outline (lineBreak (depth + 1))).2 = [] := by
      cases part with
      | text text => exact absurd rfl (here text)
      | comment content => rfl
      | element name attributes content =>
        rw [Node.outline]
        split <;> rfl
    rw [List.flatMap_cons, List.append_assoc, List.cons_append, List.singleton_append]
    simp only [outline, Node.outline, List.nil_append, escape_lineBreak, nothing, rest]
    rfl

/-- A tidy part of a document other than text. -/
structure Solid (node : Node) : Prop where
  markup : ∀ text, node ≠ .text text
  tidy : ∀ rest, Tidy rest → Tidy (node :: rest)

theorem solid_comment (line : List Char) : Solid (.comment (commentBody line)) :=
  ⟨nofun, fun _ more => .comment line more⟩

theorem solid_element {content : List Node} (named : isName name = true)
    (keys : ∀ key ∈ attributes.map Prod.fst, isName key = true)
    (distinct : (attributes.map Prod.fst).Nodup) (inside : Tidy content) :
    Solid (.element name attributes content) :=
  ⟨nofun, fun _ more => .element named keys distinct inside more⟩

theorem tidy_laidOut (depth : Nat) {parts : List Node} (solid : ∀ part ∈ parts, Solid part) :
    Tidy (laidOut depth parts) := by
  unfold laidOut
  induction parts with
  | nil => exact .text (List.cons_ne_nil _ _) (fun _ _ => nofun) .nil
  | cons part parts ih =>
    rcases List.forall_mem_cons.mp solid with ⟨here, others⟩
    refine .text (List.cons_ne_nil _ _) ?_ (here.tidy _ (ih others))
    intro other more same
    exact here.markup other (List.cons.inj same).1

end FlatFile.Markup
