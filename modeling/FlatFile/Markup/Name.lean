/-
  FlatFile/Markup/Name.lean
  =========================
  **Names of elements and attributes.**

  Names are those of XML without the colon, so that a name never carries a
  namespace.  `isName` accepts them, and `nameOf?` turns any text that is not
  blank into one: characters that names do not have become underscores, and an
  underscore is put in front where the first character cannot start a name.
-/
import FlatFile.Text.Blank

namespace FlatFile.Markup

/-- The ranges, both ends included, of the characters that start a name. -/
def nameStartRanges : List (Nat × Nat) := [
  (0x41, 0x5A), (0x5F, 0x5F), (0x61, 0x7A), (0xC0, 0xD6), (0xD8, 0xF6), (0xF8, 0x2FF),
  (0x370, 0x37D), (0x37F, 0x1FFF), (0x200C, 0x200D), (0x2070, 0x218F), (0x2C00, 0x2FEF),
  (0x3001, 0xD7FF), (0xF900, 0xFDCF), (0xFDF0, 0xFFFD), (0x10000, 0xEFFFF)]

/-- The ranges of the further characters of a name. -/
def nameRestRanges : List (Nat × Nat) := [
  (0x2D, 0x2E), (0x30, 0x39), (0xB7, 0xB7), (0x300, 0x36F), (0x203F, 0x2040)]

def inRanges (ranges : List (Nat × Nat)) (c : Char) : Bool :=
  ranges.any fun (first, last) => first ≤ c.toNat && c.toNat ≤ last

def isNameStart (c : Char) : Bool := inRanges nameStartRanges c

def isNameChar (c : Char) : Bool := isNameStart c || inRanges nameRestRanges c

/-- A name without a colon. -/
def isName : List Char → Bool
  | [] => false
  | c :: rest => isNameStart c && rest.all isNameChar

/-- The text with an underscore for each character that names do not have. -/
def replaceUnnamable (text : List Char) : List Char :=
  text.map fun c => if isNameChar c then c else '_'

/-- **The name made from a text**, none if the text is blank. -/
def nameOf? (text : List Char) : Option (List Char) :=
  match replaceUnnamable (Text.trim text) with
  | [] => none
  | c :: rest => some (if isNameStart c then c :: rest else '_' :: c :: rest)

end FlatFile.Markup
