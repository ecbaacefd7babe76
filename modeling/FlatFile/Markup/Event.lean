/-
  FlatFile/Markup/Event.lean
  ==========================
  **The events of a document, and the attributes of a tag.**

  A document read from left to right is a sequence of events: tags, runs of text,
  references between them, and sections and comments whose content is not markup.
  Values are raw, their references unresolved.

  The attributes of a tag are read from the text after its name.  What is not an
  attribute is passed over: a key without an equals sign, a value without quotes,
  and the value of a key that was there before.
-/
import FlatFile.Markup.Fault
import FlatFile.Markup.NameSet

namespace FlatFile.Markup

/-- A tag that opens an element: its name, and the text after the name. -/
structure Tag where
  name : List Char
  tail : List Char
deriving DecidableEq, Repr

/-- What a reader of a document meets. -/
inductive Event where
  | start (tag : Tag)
  | empty (tag : Tag)
  | finish (name : List Char)
  | text (raw : List Char)
  /-- What stands between an ampersand and a semicolon. -/
  | reference (name : List Char)
  | cdata (content : List Char)
  | comment (content : List Char)
  /-- A declaration, a document type or a processing instruction. -/
  | other
deriving DecidableEq, Repr

/-- The blanks of markup. -/
def isMarkupBlank (c : Char) : Bool := c == ' ' || c == '\t' || c == '\n' || c == '\r'

/-- The quotes after one more character of a tag or a declaration. -/
def nextQuote (quote : Option Char) (c : Char) : Option Char :=
  match quote with
  | some mark => if c = mark then none else quote
  | none => if c = '"' ∨ c = '\'' then some c else none

/-- The part of a name after its first colon, or all of it. -/
def localName (name : List Char) : List Char :=
  match name.dropWhile (· != ':') with
  | [] => name
  | _ :: rest => rest

/-- The tag written by the text between the angle brackets. -/
def Tag.ofContent (content : List Char) : Tag :=
  ⟨content.takeWhile (!isMarkupBlank ·), content.dropWhile (!isMarkupBlank ·)⟩

/-! ### Attributes -/

/-- Where the reading of attributes stands; keys and values are held last character
    first. -/
inductive AttributeScan where
  | between
  | key (key : List Char)
  | afterKey (key : List Char)
  | beforeValue (key : List Char)
  | value (key : List Char) (quote : Char) (value : List Char)
  /-- Passing over something up to the next blank. -/
  | skipping
deriving DecidableEq, Repr

/-- The state after the equals sign of a key, given the keys before it. -/
def AttributeScan.afterEquals (used : NameSet) (key : List Char) : AttributeScan × NameSet :=
  if used.contains key then (.skipping, used) else (.beforeValue key, used.insert key)

/-- The attributes of a text, given the keys before it. -/
def attributesFrom (used : NameSet) :
    AttributeScan → List Char → List (List Char × List Char)
  | _, [] => []
  | .between, c :: rest =>
    if isMarkupBlank c then attributesFrom used .between rest
    else attributesFrom used (.key [c]) rest
  | .key key, c :: rest =>
    if c = '=' then
      let (scan, used) := AttributeScan.afterEquals used key
      attributesFrom used scan rest
    else if isMarkupBlank c then attributesFrom used (.afterKey key) rest
    else attributesFrom used (.key (c :: key)) rest
  | .afterKey key, c :: rest =>
    if c = '=' then
      let (scan, used) := AttributeScan.afterEquals used key
      attributesFrom used scan rest
    else if isMarkupBlank c then attributesFrom used (.afterKey key) rest
    else attributesFrom used (.key [c]) rest
  | .beforeValue key, c :: rest =>
    if isMarkupBlank c then attributesFrom used (.beforeValue key) rest
    else if c = '"' ∨ c = '\'' then attributesFrom used (.value key c []) rest
    else attributesFrom used .skipping rest
  | .value key quote value, c :: rest =>
    if c = quote then (key.reverse, value.reverse) :: attributesFrom used .between rest
    else attributesFrom used (.value key quote (c :: value)) rest
  | .skipping, c :: rest =>
    if isMarkupBlank c then attributesFrom used .between rest
    else attributesFrom used .skipping rest

/-- **The attributes of a tag**, key and raw value, in order. -/
def Tag.attributes (tag : Tag) : List (List Char × List Char) :=
  attributesFrom .empty .between tag.tail

end FlatFile.Markup
