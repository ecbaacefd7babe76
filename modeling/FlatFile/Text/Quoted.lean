/-
  FlatFile/Text/Quoted.lean
  =========================
  **Text quoted inside a message.**

  A message names the setting it complains about between double quotes.  The
  quotation is unambiguous and stays on one line: the quote and the backslash
  take a backslash, the common controls have their letters, and every other
  character without a visible form of its own is written as its code point in
  braces, in lower case hexadecimal without leading zeros.
-/
import FlatFile.Text.Invisible

namespace FlatFile.Text

/-- The hexadecimal digits of a number, lower case, at least one. -/
def hexDigits (n : Nat) : List Char := Nat.toDigits 16 n

/-- A character as it stands inside a quotation. -/
def quoteChar (c : Char) : List Char :=
  if c == '"' then ['\\', '"']
  else if c == '\\' then ['\\', '\\']
  else if c == '\n' then ['\\', 'n']
  else if c == '\r' then ['\\', 'r']
  else if c == '\t' then ['\\', 't']
  else if c == '\x00' then ['\\', '0']
  else if isInvisible c then ['\\', 'u', '\x7b'] ++ hexDigits c.toNat ++ ['\x7d']
  else [c]

/-- The text between double quotes, as a message shows it. -/
def quote (text : List Char) : List Char := '"' :: text.flatMap quoteChar ++ ['"']

end FlatFile.Text
