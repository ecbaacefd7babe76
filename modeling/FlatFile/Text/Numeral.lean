/-
  FlatFile/Text/Numeral.lean
  ==========================
  **Decimal numerals.**

  Numbers are written in decimal without leading zeros.  They are read from a
  run of ASCII digits of any length, leading zeros included; a *word* is such a
  run below 2⁶⁴ with an optional plus sign, a *wide integer* one with an optional
  sign that fits 128 bits in two's complement.
-/

namespace FlatFile.Text

def digitValue? (c : Char) : Option Nat :=
  if '0' ≤ c ∧ c ≤ '9' then some (c.toNat - '0'.toNat) else none

/-- The value of a run of digits that continues a number already read as `sofar`, as long
    as it stays below a bound. -/
def digitsFrom? (bound sofar : Nat) : List Char → Option Nat
  | [] => some sofar
  | c :: rest =>
    match digitValue? c with
    | some d =>
      if 10 * sofar + d < bound then digitsFrom? bound (10 * sofar + d) rest else none
    | none => none

/-- The number written by a non-empty run of digits, if it is below a bound. -/
def natural? (bound : Nat) : List Char → Option Nat
  | [] => none
  | digits => digitsFrom? bound 0 digits

/-- The decimal digits of a number, without leading zeros. -/
def decimal (n : Nat) : List Char := Nat.toDigits 10 n

/-- The decimal form of an integer, a minus sign before the negative ones. -/
def signedDecimal : Int → List Char
  | .ofNat n => decimal n
  | .negSucc n => '-' :: decimal (n + 1)

/-- The first number past a 64-bit word. -/
def wordBound : Nat := UInt64.size

/-- The first number past the wide integers, 2¹²⁷. -/
def wideBound : Nat := 170141183460469231731687303715884105728

/-- A word: digits with an optional plus sign, below `wordBound`. -/
def word? : List Char → Option Nat
  | '+' :: digits => natural? wordBound digits
  | digits => natural? wordBound digits

/-- A wide integer: digits with an optional sign, between -2¹²⁷ and 2¹²⁷ - 1. -/
def wideInteger? : List Char → Option Int
  | '-' :: digits => (natural? (wideBound + 1) digits).map fun n => -(n : Int)
  | '+' :: digits => (natural? wideBound digits).map Int.ofNat
  | digits => (natural? wideBound digits).map Int.ofNat

end FlatFile.Text
