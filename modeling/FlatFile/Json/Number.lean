/-
  FlatFile/Json/Number.lean
  =========================
  **Numbers of JSON.**

  A number is an integer as long as it is written as one and fits 64 bits.  Any
  other number is taken in double precision: as many of its leading digits as fit
  a word make a significand, the digits after them only count, and the number is
  the product of the significand and a power of ten, where both factors and then
  the product are rounded.  Of such a number nothing is kept but whether it stays
  in range on this way, which a number close to the greatest one may miss although
  it is not above it.
-/
import FlatFile.Json.Basic
import FlatFile.Text.Numeral

namespace FlatFile.Json

/-! ### Pieces -/

/-- A run of digits, at least one, and the text after it. -/
def digits? (text : List Char) : Option (List Char × List Char) :=
  let digits := text.takeWhile Char.isDigit
  if digits.isEmpty then none else some (digits, text.dropWhile Char.isDigit)

/-- The digits after a point, if there is one. -/
def fraction? : List Char → Option (Option (List Char) × List Char)
  | '.' :: rest => (digits? rest).map fun (digits, rest) => (some digits, rest)
  | text => some (none, text)

/-- A number continued by digits up to the first one with which it would not fit a word
    of 64 bits, and the digits from there on. -/
def wordOf (sofar : Nat) : List Char → Nat × List Char
  | [] => (sofar, [])
  | c :: rest =>
    let next := 10 * sofar + (Text.digitValue? c).getD 0
    if next < Text.wordBound then wordOf next rest else (sofar, c :: rest)

/-- The exponent, if there is one.  Of one beyond a word its first digits tell enough: the
    number is out of reach either way. -/
def exponent? : List Char → Option (Option Int × List Char)
  | c :: rest =>
    if c = 'e' ∨ c = 'E' then
      let (negative, rest) := match rest with
        | '-' :: rest => (true, rest)
        | '+' :: rest => (false, rest)
        | _ => (false, rest)
      (digits? rest).map fun (digits, rest) =>
        let n : Int := (wordOf 0 digits).1
        (some (if negative then -n else n), rest)
    else some (none, c :: rest)
  | [] => some (none, [])

/-! ### Double precision -/

/-- The nearest number of 53 significant bits; of two equally near ones the even one. -/
def toDouble (n : Nat) : Nat :=
  let unit := Nat.pow 2 (n.log2 - 52)
  let quotient := n / unit
  let twice := 2 * (n % unit)
  if unit < twice || (twice == unit && quotient % 2 == 1) then unit * (quotient + 1)
  else unit * quotient

/-- The least number that is rounded out of the range: the middle between the greatest
    number in range and the next power of two. -/
def rangeEnd : Nat := Nat.pow 2 1024 - Nat.pow 2 970

/-- The greatest exponent of a power of ten in range. -/
def greatestExponent : Nat := 308

/-- A significand times ten to the exponent stays in range.  A division never leaves
    it. -/
def isInRange (significand : Nat) (exponent : Int) : Bool :=
  match exponent with
  | .ofNat exponent =>
    significand == 0 ||
      (Nat.ble exponent greatestExponent &&
        Nat.blt (toDouble significand * toDouble (Nat.pow 10 exponent)) rangeEnd)
  | .negSucc _ => true

/-- The number with these digits before and after its point and this exponent is finite
    in double precision. -/
def isFinite (whole fraction : List Char) (exponent : Int) : Bool :=
  let (significand, counted) := wordOf 0 whole
  let (significand, dropped) := wordOf significand fraction
  isInRange significand (exponent + counted.length + dropped.length - fraction.length)

/-! ### Numbers -/

/-- The magnitude of the least integer with a sign, 2⁶³. -/
def greatestMagnitude : Nat := 9223372036854775808

/-- A number after its sign, and the text after it. -/
def number? (negative : Bool) (text : List Char) : Option (Json × List Char) := do
  let (whole, rest) ← digits? text
  guard (whole = ['0'] ∨ whole.head? ≠ some '0')
  let (fraction, rest) ← fraction? rest
  let (exponent, rest) ← exponent? rest
  let integer? := Text.natural? Text.wordBound whole
  let real := Json.real (isFinite whole (fraction.getD []) (exponent.getD 0))
  let value :=
    if fraction.isSome || exponent.isSome then real
    else
      match integer? with
      | none => real
      | some n =>
        if !negative then .integer n
        else if 0 < n ∧ n ≤ greatestMagnitude then .integer (-(n : Int))
        else real
  return (value, rest)

end FlatFile.Json
