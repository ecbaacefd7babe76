/-
  FlatFile/Json/Print.lean
  ========================
  **Writing JSON.**

  Values are written without blanks.  In a string the quote, the backslash and
  the control characters are escaped and nothing else is.  A number of which only
  the kind is known is written as one of that kind.
-/
import FlatFile.Json.Basic
import FlatFile.Text.Numeral
import FlatFile.Text.Quoted

namespace FlatFile.Json

/-- A code unit as an escape of four hexadecimal digits. -/
def escapeUnit (n : Nat) : List Char :=
  let digits := Text.hexDigits n
  ['\\', 'u'] ++ List.replicate (4 - digits.length) '0' ++ digits

/-- A character as it stands in a string. -/
def printChar (c : Char) : List Char :=
  if c = '"' then ['\\', '"']
  else if c = '\\' then ['\\', '\\']
  else if c = '\n' then ['\\', 'n']
  else if c = '\r' then ['\\', 'r']
  else if c = '\t' then ['\\', 't']
  else if c = '\x08' then ['\\', 'b']
  else if c = '\x0c' then ['\\', 'f']
  else if c.toNat < 0x20 then escapeUnit c.toNat
  else [c]

/-- A string; one without a text is written as half a surrogate pair. -/
def printText : JsonText → List Char
  | some text => '"' :: text.toList.flatMap printChar ++ ['"']
  | none => '"' :: escapeUnit 0xD800 ++ ['"']

mutual

/-- **The text of a value.** -/
def print : Json → List Char
  | .null => "null".toList
  | .bool true => "true".toList
  | .bool false => "false".toList
  | .integer value => Text.signedDecimal value
  | .real true => "0.0".toList
  | .real false => "1e999".toList
  | .string content => printText content
  | .array [] => ['[', ']']
  | .array (item :: items) => '[' :: print item ++ printItems items
  | .object [] => ['\x7b', '\x7d']
  | .object ((key, value) :: members) =>
    '\x7b' :: printText key ++ ':' :: print value ++ printMembers members

/-- The items after the first one, and the end of the array. -/
def printItems : List Json → List Char
  | [] => [']']
  | item :: items => ',' :: print item ++ printItems items

/-- The members after the first one, and the end of the object. -/
def printMembers : List (JsonText × Json) → List Char
  | [] => ['\x7d']
  | (key, value) :: members => ',' :: printText key ++ ':' :: print value ++ printMembers members

end

end FlatFile.Json
