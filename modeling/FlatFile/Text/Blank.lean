/-
  FlatFile/Text/Blank.lean
  ========================
  **Blank characters and trimming.**

  Text is a list of characters.  A character is *blank* when it has the Unicode
  property `White_Space`; that is twenty-five code points, more than the blanks
  of ASCII and fewer than the characters without ink (the zero width space, for
  one, is not among them).  Trimming removes blanks at both ends, and text
  without any other character is blank itself.
-/

namespace FlatFile.Text

/-- The ranges, both ends included, of the Unicode property `White_Space`. -/
def blankRanges : List (Nat × Nat) := [
  (0x9, 0xD), (0x20, 0x20), (0x85, 0x85), (0xA0, 0xA0), (0x1680, 0x1680), (0x2000, 0x200A),
  (0x2028, 0x2029), (0x202F, 0x202F), (0x205F, 0x205F), (0x3000, 0x3000)]

def isBlankChar (c : Char) : Bool :=
  blankRanges.any fun (first, last) => first ≤ c.toNat && c.toNat ≤ last

/-- Text of blank characters only; the empty text is one. -/
def isBlank (text : List Char) : Bool := text.all isBlankChar

/-- The text from its first character that is not blank. -/
def trimStart (text : List Char) : List Char := text.dropWhile isBlankChar

/-- The text up to its last character that is not blank. -/
def trimEnd (text : List Char) : List Char := (trimStart text.reverse).reverse

/-- The text without the blanks at its two ends. -/
def trim (text : List Char) : List Char := trimEnd (trimStart text)

end FlatFile.Text
