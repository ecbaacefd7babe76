/-
  FlatFile/Markup/Doctype.lean
  ============================
  **Where a document type declaration ends.**

  A declaration ends at its first `>` outside quotes, unless a bracket opens an
  internal subset before.  The subset ends at the first closing bracket between
  its pieces, and the declaration at the first `>` after that.

  A piece of the subset is told by the characters after its `<`.  A comment and an
  instruction end with their own marks.  Declarations of entities, attributes and
  notations hold values in quotes, in which a `>` ends nothing.  Any other piece
  ends at the next `>`, whatever quotes it holds.

  The dashes at the end of a comment are the only thing in a document that depends
  on the blocks in which it arrives: dashes at the ends of consecutive blocks are
  added up, even if the later block holds something else in front of its own.
-/
import FlatFile.Markup.Event

namespace FlatFile.Markup

/-! ### Comments of the subset -/

/-- The dashes in front of the character at hand. -/
structure Dashes where
  /-- Those at the ends of the blocks before. -/
  earlier : Nat
  /-- Those of this block since its start or since the last other character. -/
  here : Nat
  /-- This block holds nothing but dashes so far. -/
  unbroken : Bool
deriving DecidableEq, Repr

namespace Dashes

/-- No dashes, at the start of a comment. -/
def start : Dashes := ⟨0, 0, true⟩

/-- The dashes after one more character. -/
def step (dashes : Dashes) (c : Char) : Dashes :=
  if c = '-' then { dashes with here := dashes.here + 1 }
  else { dashes with here := 0, unbroken := false }

/-- Two dashes at least stand in front of the character at hand. -/
def areTwo (dashes : Dashes) : Bool :=
  Nat.ble 2 (if dashes.unbroken then dashes.earlier + dashes.here else dashes.here)

/-- The dashes at the end of a block. -/
def pause (dashes : Dashes) : Dashes :=
  match dashes.here with
  | 0 => start
  | here => ⟨dashes.earlier + here, 0, true⟩

end Dashes

/-! ### Parts -/

/-- The part of a document type declaration at hand. -/
inductive DoctypePart where
  /-- Before the internal subset; inside quotes if there are some. -/
  | outside (quote : Option Char)
  /-- In the internal subset, between its pieces. -/
  | subset
  /-- After a `<` in the internal subset and these characters, last one first, which do not
      tell the piece yet. -/
  | opened (seen : List Char)
  /-- In a piece that ends at the next `>`. -/
  | plain
  /-- In a declaration with values; inside quotes if there are some. -/
  | valued (quote : Option Char)
  | comment (dashes : Dashes)
  /-- In an instruction; after a question mark or not. -/
  | instruction (marked : Bool)
  /-- After the internal subset. -/
  | closing
deriving DecidableEq, Repr

namespace DoctypePart

/-- What begins a piece that does not simply end at the next `>`. -/
def openings : List (String × DoctypePart) := [
  ("?", .instruction false), ("!--", .comment .start), ("!ENTITY", .valued none),
  ("!ATTLIST", .valued none), ("!NOTATION", .valued none)]

/-- A piece that ends at the next `>`, after one more character. -/
def stepPlain (c : Char) : DoctypePart := if c = '>' then .subset else .plain

/-- The piece after one more of the characters that tell which one it is. -/
def stepOpened (seen : List Char) (c : Char) : DoctypePart :=
  let word := (c :: seen).reverse
  match openings.find? fun entry => entry.1.toList == word with
  | some (_, part) => part
  | none =>
    if openings.any fun entry => word.isPrefixOf entry.1.toList then .opened (c :: seen)
    else stepPlain c

/-- **The part after one more character**, none at the end of the declaration. -/
def step (part : DoctypePart) (c : Char) : Option DoctypePart :=
  match part with
  | .outside (some quote) => some (.outside (nextQuote (some quote) c))
  | .outside none =>
    if c = '>' then none
    else if c = '[' then some .subset
    else some (.outside (nextQuote none c))
  | .subset =>
    if c = ']' then some .closing else if c = '<' then some (.opened []) else some .subset
  | .opened seen => some (stepOpened seen c)
  | .plain => some (stepPlain c)
  | .valued quote =>
    if c = '>' ∧ quote = none then some .subset else some (.valued (nextQuote quote c))
  | .comment dashes =>
    if c = '>' && dashes.areTwo then some .subset else some (.comment (dashes.step c))
  | .instruction marked =>
    if c = '>' && marked then some .subset else some (.instruction (c == '?'))
  | .closing => if c = '>' then none else some .closing

/-- The part at the end of a block of the document. -/
def pause : DoctypePart → DoctypePart
  | .comment dashes => .comment dashes.pause
  | part => part

end DoctypePart

/-! ### The whole declaration -/

/-- The text after the word that starts a document type declaration. -/
def doctypeBody? : List Char → List Char → Option (List Char)
  | [], text => some text
  | _ :: _, [] => none
  | w :: word, c :: text => if c.toLower = w then doctypeBody? word text else none

end FlatFile.Markup
