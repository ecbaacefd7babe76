/-
  FlatFile/Markup/Escape.lean
  ===========================
  **Escaping text, and resolving the references in it.**

  The five characters that markup uses for itself are written as references:
  `escape` replaces them, wherever they stand.  `unescape` reads the references
  in a value back: the five names, and code points in decimal or, after an `x`,
  in hexadecimal.  Anything else between an ampersand and a semicolon is a fault,
  and so is an ampersand without one; the fault tells where, in bytes of UTF-8.
-/
import FlatFile.Markup.Fault

namespace FlatFile.Markup

/-! ### Escaping -/

def escapeChar (c : Char) : List Char :=
  if c = '<' then ['&', 'l', 't', ';']
  else if c = '>' then ['&', 'g', 't', ';']
  else if c = '&' then ['&', 'a', 'm', 'p', ';']
  else if c = '\'' then ['&', 'a', 'p', 'o', 's', ';']
  else if c = '"' then ['&', 'q', 'u', 'o', 't', ';']
  else [c]

/-- The text with the characters of markup as references. -/
def escape (text : List Char) : List Char := text.flatMap escapeChar

/-! ### Resolving -/

/-- The character that a name stands for. -/
def entity? (name : List Char) : Option Char :=
  if name = ['l', 't'] then some '<'
  else if name = ['g', 't'] then some '>'
  else if name = ['a', 'm', 'p'] then some '&'
  else if name = ['a', 'p', 'o', 's'] then some '\''
  else if name = ['q', 'u', 'o', 't'] then some '"'
  else none

/-- The value of a digit in base ten or sixteen. -/
def baseDigit? (base : Nat) (c : Char) : Option Nat :=
  let value :=
    if '0' ≤ c ∧ c ≤ '9' then c.toNat - '0'.toNat
    else if 'a' ≤ c ∧ c ≤ 'f' then c.toNat - 'a'.toNat + 10
    else if 'A' ≤ c ∧ c ≤ 'F' then c.toNat - 'A'.toNat + 10
    else base
  if value < base then some value else none

/-- The number that digits continue, as long as it fits 32 bits. -/
def codeFrom (base sofar : Nat) : List Char → Except ReferenceFault Nat
  | [] => .ok sofar
  | c :: rest =>
    match baseDigit? base c with
    | none => .error .badDigit
    | some d =>
      if base * sofar + d < UInt32.size then codeFrom base (base * sofar + d) rest
      else .error .numberTooLarge

/-- The number written by digits, without a sign. -/
def code (base : Nat) : List Char → Except ReferenceFault Nat
  | [] => .error .noDigits
  | c :: rest => if c = '+' ∨ c = '-' then .error .signedNumber else codeFrom base 0 (c :: rest)

/-- The character with a number. -/
def codePoint (number : Nat) : Except ReferenceFault Char :=
  if number = 0 then .error .nul
  else if number.isValidChar then .ok (Char.ofNat number)
  else .error (.notACodePoint number)

/-- The character that the text after a number sign stands for. -/
def numbered (digits : List Char) : Except ReferenceFault Char :=
  let number := match digits with
    | 'x' :: rest => code 16 rest
    | _ => code 10 digits
  match number with
  | .ok number => codePoint number
  | .error fault => .error fault

/-- The character that the text between ampersand and semicolon stands for; `first` is
    where it starts. -/
def resolve (first : Nat) (name : List Char) : Except ReferenceFault Char :=
  match name with
  | '#' :: digits => numbered digits
  | _ =>
    match entity? name with
    | some c => .ok c
    | none => .error (.unknownEntity first (first + utf8Length name) name)
where
  /-- The bytes of a text in UTF-8. -/
  utf8Length (text : List Char) : Nat := text.foldr (fun c bytes => c.utf8Size + bytes) 0

/-- Where the resolution of a text stands: in plain text, or after the ampersand at
    `first` with the characters since then, last one first. -/
inductive Resolving where
  | plain
  | reference (first : Nat) (name : List Char)
deriving DecidableEq, Repr

/-- The text with its references resolved, from the byte `position` on in a value of
    `total` bytes. -/
def unescapeFrom (total : Nat) : Nat → Resolving → List Char → Except ReferenceFault (List Char)
  | _, .plain, [] => .ok []
  | _, .reference first _, [] => .error (.unterminated first total)
  | position, .plain, c :: rest =>
    if c = '&' then unescapeFrom total (position + 1) (.reference position []) rest
    else (unescapeFrom total (position + c.utf8Size) .plain rest).map (c :: ·)
  | position, .reference first name, c :: rest =>
    if c = ';' then
      match resolve (first + 1) name.reverse with
      | .ok resolved => (unescapeFrom total (position + 1) .plain rest).map (resolved :: ·)
      | .error fault => .error fault
    else if c = '&' then .error (.unterminated first total)
    else unescapeFrom total (position + c.utf8Size) (.reference first (c :: name)) rest

/-- **The value with its references resolved.** -/
def unescape (raw : List Char) : Except ReferenceFault (List Char) :=
  unescapeFrom (resolve.utf8Length raw) 0 .plain raw

end FlatFile.Markup
