/-
  FlatFile/Json/Read.lean
  =======================
  **Reading JSON.**

  The grammar is the strict one: no comments, no trailing commas, no control
  characters in strings, no leading zeros, and nothing but blanks around the
  value.  Whether what a string or a number says is of any use is decided by
  whoever looks into the value.
-/
import FlatFile.Json.Number
import FlatFile.Markup.Escape
import FlatFile.Text.Separated

namespace FlatFile.Json

/-! ### Strings -/

/-- A piece of a string: a character, or the code unit of an escape. -/
inductive Piece where
  | char (c : Char)
  | unit (n : Nat)
deriving DecidableEq, Repr

def unit? : List Char → Option Nat
  | [a, b, c, d] => do
    let a ← Markup.baseDigit? 16 a
    let b ← Markup.baseDigit? 16 b
    let c ← Markup.baseDigit? 16 c
    let d ← Markup.baseDigit? 16 d
    return 4096 * a + 256 * b + 16 * c + d
  | _ => none

/-- The character of an escape of one letter. -/
def escaped? (c : Char) : Option Char :=
  if c = '"' ∨ c = '\\' ∨ c = '/' then some c
  else if c = 'b' then some '\x08'
  else if c = 'f' then some '\x0c'
  else if c = 'n' then some '\n'
  else if c = 'r' then some '\r'
  else if c = 't' then some '\t'
  else none

/-- The pieces of a string after its opening quote, and the text after it. -/
def pieces? : List Char → Option (List Piece × List Char)
  | [] => none
  | '"' :: rest => some ([], rest)
  | '\\' :: 'u' :: a :: b :: c :: d :: rest =>
    match unit? [a, b, c, d], pieces? rest with
    | some n, some (pieces, rest) => some (.unit n :: pieces, rest)
    | _, _ => none
  | '\\' :: c :: rest =>
    match escaped? c, pieces? rest with
    | some c, some (pieces, rest) => some (.char c :: pieces, rest)
    | _, _ => none
  | c :: rest =>
    if c.toNat < 0x20 ∨ c = '\\' then none
    else (pieces? rest).map fun (pieces, rest) => (.char c :: pieces, rest)

/-- The characters of the pieces of a string, none if a code unit is half a surrogate
    pair without the other half next to it. -/
def combine? : List Piece → Option (List Char)
  | [] => some []
  | .char c :: pieces => (combine? pieces).map (c :: ·)
  | .unit high :: .unit low :: pieces =>
    if 0xD800 ≤ high ∧ high < 0xDC00 ∧ 0xDC00 ≤ low ∧ low < 0xE000 then
      (combine? pieces).map
        (Char.ofNat (0x10000 + 0x400 * (high - 0xD800) + (low - 0xDC00)) :: ·)
    else if high.isValidChar then (combine? (.unit low :: pieces)).map (Char.ofNat high :: ·)
    else none
  | .unit n :: pieces =>
    if n.isValidChar then (combine? pieces).map (Char.ofNat n :: ·) else none

/-- A string after its opening quote, and the text after it. -/
def string? (text : List Char) : Option (JsonText × List Char) :=
  (pieces? text).map fun (pieces, rest) => ((combine? pieces).map String.ofList, rest)

/-! ### Values -/

def isBlank (c : Char) : Bool := c == ' ' || c == '\n' || c == '\t' || c == '\r'

def skipBlanks (text : List Char) : List Char := text.dropWhile isBlank

mutual

/-- A value and the text after it, with at most `fuel` steps into and along it. -/
def valueWith? : Nat → List Char → Option (Json × List Char)
  | 0, _ => none
  | fuel + 1, text =>
    match skipBlanks text with
    | '"' :: rest => (string? rest).map fun (content, rest) => (.string content, rest)
    | '[' :: rest =>
      match skipBlanks rest with
      | ']' :: rest => some (.array [], rest)
      | rest => (itemsWith? fuel rest).map fun (items, rest) => (.array items, rest)
    | '\x7b' :: rest =>
      match skipBlanks rest with
      | '\x7d' :: rest => some (.object [], rest)
      | rest => (membersWith? fuel rest).map fun (members, rest) => (.object members, rest)
    | '-' :: rest => number? true rest
    | text =>
      match Text.after? "null".toList text with
      | some rest => some (.null, rest)
      | none =>
        match Text.after? "true".toList text with
        | some rest => some (.bool true, rest)
        | none =>
          match Text.after? "false".toList text with
          | some rest => some (.bool false, rest)
          | none => number? false text

/-- The items of an array, its end, and the text after it. -/
def itemsWith? : Nat → List Char → Option (List Json × List Char)
  | 0, _ => none
  | fuel + 1, text =>
    match valueWith? fuel text with
    | none => none
    | some (item, rest) =>
      match skipBlanks rest with
      | ',' :: rest => (itemsWith? fuel rest).map fun (items, rest) => (item :: items, rest)
      | ']' :: rest => some ([item], rest)
      | _ => none

/-- The members of an object, its end, and the text after it. -/
def membersWith? : Nat → List Char → Option (List (JsonText × Json) × List Char)
  | 0, _ => none
  | fuel + 1, text =>
    match skipBlanks text with
    | '"' :: rest =>
      match string? rest with
      | none => none
      | some (key, rest) =>
        match skipBlanks rest with
        | ':' :: rest =>
          match valueWith? fuel rest with
          | none => none
          | some (value, rest) =>
            match skipBlanks rest with
            | ',' :: rest =>
              (membersWith? fuel rest).map fun (members, rest) => ((key, value) :: members, rest)
            | '\x7d' :: rest => some ([(key, value)], rest)
            | _ => none
        | _ => none
    | _ => none

end

/-- **The value that a text writes**, none if the text is not well formed. -/
def read? (text : List Char) : Option Json :=
  match valueWith? (2 * text.length + 2) text with
  | some (value, rest) => if (skipBlanks rest).isEmpty then some value else none
  | none => none

end FlatFile.Json
