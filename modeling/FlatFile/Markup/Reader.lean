/-
  FlatFile/Markup/Reader.lean
  ===========================
  **Reading a document, character by character.**

  The reader takes one character at a time and completes at most one event with
  each.  It is told where a block of the document ends, but only a comment inside a
  document type declaration makes a difference there.

  It keeps the names of the open elements: an end tag has to name the innermost
  one, while elements still open at the end of the document are no fault.  A fault
  ends the reading; nothing is read after it.
-/
import FlatFile.Markup.Doctype
import FlatFile.Text.Separated

namespace FlatFile.Markup

/-! ### Where the reader stands -/

/-- Where the reader stands; texts are held last character first. -/
inductive Scan where
  /-- Before the first character, which may be a byte order mark. -/
  | start
  | text (seen : List Char)
  /-- After an ampersand. -/
  | reference (seen : List Char)
  /-- After a `<`. -/
  | opened
  /-- After a `<!`. -/
  | bang
  | comment (seen : List Char)
  | cdata (seen : List Char)
  | doctype (part : DoctypePart) (seen : List Char)
  /-- After a `<?`. -/
  | instruction (seen : List Char)
  /-- In a tag that opens an element; inside quotes if there are some. -/
  | tag (quote : Option Char) (seen : List Char)
  /-- In a tag that closes an element. -/
  | endTag (quote : Option Char) (seen : List Char)
deriving DecidableEq, Repr

/-- A reader: where it stands, and the open elements, innermost first. -/
structure Reader where
  scan : Scan
  openElements : List (List Char)
deriving DecidableEq, Repr

/-! ### Pieces -/

/-- A run of text as an event, unless it is empty. -/
def textEvent (seen : List Char) : Option Event :=
  if seen.isEmpty then none else some (.text seen.reverse)

/-- The content of a text that has to start with one piece and is to lose another at its
    end; it is given last character first. -/
def enclosed? (opening closing seen : List Char) : Option (List Char) :=
  match Text.after? closing seen with
  | some inner => Text.after? opening inner.reverse
  | none => none

/-- The name in an end tag, without the blanks after it. -/
def endTagName (seen : List Char) : List Char :=
  match seen.dropWhile isMarkupBlank with
  | [] => seen.reverse
  | trimmed => trimmed.reverse

/-- An instruction that is the declaration of the document: its name is `xml`. -/
def isDeclaration (content : List Char) : Bool :=
  match Text.after? ['x', 'm', 'l'] content with
  | some [] => true
  | some (c :: _) => c == '?' || isMarkupBlank c
  | none => false

/-! ### Steps -/

namespace Reader

def new : Reader := ⟨.start, []⟩

/-- The outcome of a step that completes an event, or none, and goes on with text. -/
def completed (reader : Reader) (event : Option Event) :
    Except MarkupFault (Option Event × Reader) :=
  .ok (event, { reader with scan := .text [] })

/-- The outcome of a step that only moves on. -/
def moved (reader : Reader) (scan : Scan) : Except MarkupFault (Option Event × Reader) :=
  .ok (none, { reader with scan })

def stepText (reader : Reader) (seen : List Char) (c : Char) :
    Except MarkupFault (Option Event × Reader) :=
  if c = '<' then .ok (textEvent seen, { reader with scan := .opened })
  else if c = '&' then .ok (textEvent seen, { reader with scan := .reference [] })
  else reader.moved (.text (c :: seen))

def stepTag (reader : Reader) (quote : Option Char) (seen : List Char) (c : Char) :
    Except MarkupFault (Option Event × Reader) :=
  if c = '>' ∧ quote = none then
    match seen with
    | '/' :: content => reader.completed (some (.empty (.ofContent content.reverse)))
    | content =>
      let tag := Tag.ofContent content.reverse
      .ok (some (.start tag), ⟨.text [], tag.name :: reader.openElements⟩)
  else reader.moved (.tag (nextQuote quote c) (c :: seen))

def stepEndTag (reader : Reader) (quote : Option Char) (seen : List Char) (c : Char) :
    Except MarkupFault (Option Event × Reader) :=
  if c = '>' ∧ quote = none then
    let name := endTagName seen
    match reader.openElements with
    | [] => .error (.endTagUnmatched name)
    | innermost :: others =>
      if innermost = name then .ok (some (.finish name), ⟨.text [], others⟩)
      else .error (.endTagMismatch innermost name)
  else reader.moved (.endTag (nextQuote quote c) (c :: seen))

/-- **One more character**: the event it completes, and the reader after it. -/
def step (reader : Reader) (c : Char) : Except MarkupFault (Option Event × Reader) :=
  match reader.scan with
  | .start => if c = '\uFEFF' then reader.moved (.text []) else reader.stepText [] c
  | .text seen => reader.stepText seen c
  | .reference seen =>
    if c = ';' then reader.completed (some (.reference seen.reverse))
    else if c = '&' ∨ c = '<' then .error .referenceOpen
    else reader.moved (.reference (c :: seen))
  | .opened =>
    if c = '!' then reader.moved .bang
    else if c = '/' then reader.moved (.endTag none [])
    else if c = '?' then reader.moved (.instruction [])
    else reader.stepTag none [] c
  | .bang =>
    if c = '-' then reader.moved (.comment ['-'])
    else if c = '[' then reader.moved (.cdata ['['])
    else if c = 'D' ∨ c = 'd' then reader.moved (.doctype (.outside none) [c])
    else .error .unknownMarkup
  | .comment seen =>
    if c = '>' ∧ Text.startsWith ['-', '-'] seen ∧ 4 ≤ seen.length then
      match enclosed? ['-', '-'] ['-', '-'] seen with
      | some content => reader.completed (some (.comment content))
      | none => .error .commentOpen
    else reader.moved (.comment (c :: seen))
  | .cdata seen =>
    if c = '>' ∧ Text.startsWith [']', ']'] seen then
      match enclosed? ['[', 'C', 'D', 'A', 'T', 'A', '['] [']', ']'] seen with
      | some content => reader.completed (some (.cdata content))
      | none => .error .cdataOpen
    else reader.moved (.cdata (c :: seen))
  | .doctype part seen =>
    match part.step c with
    | some part => reader.moved (.doctype part (c :: seen))
    | none =>
      match doctypeBody? "doctype".toList seen.reverse with
      | none => .error .doctypeOpen
      | some body =>
        if body.all isMarkupBlank then .error .doctypeWithoutName
        else reader.completed (some .other)
  | .instruction seen =>
    if c = '>' then
      match seen with
      | [] => .error .instructionOpen
      | last :: _ =>
        if last = '?' then reader.completed (some .other)
        else reader.moved (.instruction (c :: seen))
    else reader.moved (.instruction (c :: seen))
  | .tag quote seen => reader.stepTag quote seen c
  | .endTag quote seen => reader.stepEndTag quote seen c

/-- The reader at the end of a block of the document. -/
def pause (reader : Reader) : Reader :=
  match reader.scan with
  | .doctype part seen => { reader with scan := .doctype part.pause seen }
  | _ => reader

/-- **The end of the document**: the last run of text, or what is left open. -/
def finish (reader : Reader) : Except MarkupFault (Option Event) :=
  match reader.scan with
  | .start => .ok none
  | .text seen => .ok (textEvent seen)
  | .reference _ => .error .referenceOpen
  | .opened => .error .tagOpen
  | .bang => .error .unknownMarkup
  | .comment _ => .error .commentOpen
  | .cdata _ => .error .cdataOpen
  | .doctype _ _ => .error .doctypeOpen
  | .instruction seen =>
    .error (if isDeclaration seen.reverse then .declarationOpen else .instructionOpen)
  | .tag none _ | .endTag none _ => .error .tagOpen
  | .tag (some quote) _ | .endTag (some quote) _ => .error (.valueOpen quote)

end Reader

end FlatFile.Markup
