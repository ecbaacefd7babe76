/-
  FlatFile/Markup/Element.lean
  ============================
  **Writing markup.**

  The pieces of a document as text: tags with attributes between double quotes,
  comments and the declaration at the start.  An attribute value is given as it
  is to stand there; `Attribute.ofText` is the one that escapes.
-/
import FlatFile.Markup.Escape

namespace FlatFile.Markup

/-- An attribute as it is written: the value stands between double quotes unchanged. -/
structure Attribute where
  name : List Char
  value : List Char
deriving DecidableEq, Repr

namespace Attribute

/-- An attribute whose value means a text. -/
def ofText (name text : List Char) : Attribute := ⟨name, escape text⟩

/-- An attribute after its blank. -/
def render (written : Attribute) : List Char :=
  ' ' :: written.name ++ ['=', '"'] ++ written.value ++ ['"']

end Attribute

/-- A name with its attributes. -/
def renderHead (name : List Char) (attributes : List Attribute) : List Char :=
  name ++ attributes.flatMap Attribute.render

def startTag (name : List Char) (attributes : List Attribute) : List Char :=
  '<' :: renderHead name attributes ++ ['>']

def emptyTag (name : List Char) (attributes : List Attribute) : List Char :=
  '<' :: renderHead name attributes ++ ['/', '>']

def endTag (name : List Char) : List Char := ['<', '/'] ++ name ++ ['>']

def comment (text : List Char) : List Char := ['<', '!', '-', '-'] ++ text ++ ['-', '-', '>']

/-- The declaration at the start of a document in a charset. -/
def declaration (charset : String) : List Char :=
  "<?xml version=\"1.0\" encoding=\"".toList ++ charset.toList ++ ['"', '?', '>']

/-- A text with a space between any two hyphens that stand side by side, given whether
    the character before it is a hyphen. -/
def spreadHyphens (afterHyphen : Bool) : List Char → List Char
  | [] => []
  | c :: rest =>
    if c = '-' ∧ afterHyphen then ' ' :: c :: spreadHyphens true rest
    else c :: spreadHyphens (c = '-') rest

/-- A line as the text of a comment, which never ends the comment: a space at either end,
    and no two hyphens side by side. -/
def commentBody (line : List Char) : List Char := ' ' :: spreadHyphens false line ++ [' ']

end FlatFile.Markup
