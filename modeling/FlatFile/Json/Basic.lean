/-
  FlatFile/Json/Basic.lean
  ========================
  **JSON values.**

  A value keeps what its reader may refuse to look into.  A string whose escapes
  name one half of a surrogate pair denotes no text, yet it is well formed and
  harmless where nobody asks for it; so the content of a string is a text or
  nothing.  Numbers are integers as long as they are written as such and fit 64
  bits, with or without a sign; of any other number only its being finite in
  double precision is kept.  The members of an object stay in order and may
  repeat.
-/

namespace FlatFile

/-- The content of a string: a text, or nothing if it names half a surrogate pair. -/
abbrev JsonText := Option String

/-- A JSON value. -/
inductive Json where
  | null
  | bool (value : Bool)
  | integer (value : Int)
  /-- A number with a fraction or an exponent, or too large for an integer. -/
  | real (finite : Bool)
  | string (content : JsonText)
  | array (items : List Json)
  | object (members : List (JsonText × Json))
deriving Inhabited

namespace Json

def text (value : String) : Json := .string (some value)

/-- A number that counts something. -/
def count (n : Nat) : Json := .integer n

/-- An object whose keys are texts. -/
def record (members : List (String × Json)) : Json :=
  .object (members.map fun (key, value) => (some key, value))

/-- A value that may be missing. -/
def ofOption {α : Type} (encode : α → Json) : Option α → Json
  | none => .null
  | some value => encode value

mutual

/-- Everything in a value can be looked into: no string without a text, no infinite
    number, and arrays and objects at most `depth` deep. -/
def isSound (depth : Nat) : Json → Bool
  | .null | .bool _ | .integer _ => true
  | .real finite => finite
  | .string content => content.isSome
  | .array items => depth != 0 && areSound (depth - 1) items
  | .object members => depth != 0 && areSoundMembers (depth - 1) members

def areSound (depth : Nat) : List Json → Bool
  | [] => true
  | item :: items => isSound depth item && areSound depth items

def areSoundMembers (depth : Nat) : List (JsonText × Json) → Bool
  | [] => true
  | (key, value) :: members =>
    key.isSome && isSound depth value && areSoundMembers depth members

end

/-! ### Looking into a value -/

def bool? : Json → Option Bool
  | .bool value => some value
  | _ => none

def text? : Json → Option String
  | .string content => content
  | _ => none

def integer? : Json → Option Int
  | .integer value => some value
  | _ => none

/-- A word of 64 bits. -/
def word? : Json → Option UInt64
  | .integer (.ofNat n) => if n < UInt64.size then some (UInt64.ofNat n) else none
  | _ => none

/-- A word of 32 bits with a sign. -/
def signedWord? : Json → Option Int32
  | .integer value =>
    if Int32.minValue.toInt ≤ value ∧ value ≤ Int32.maxValue.toInt then
      some (Int32.ofInt value)
    else none
  | _ => none

/-- A value or nothing, written as `null`. -/
def option? {α : Type} (decode : Json → Option α) : Json → Option (Option α)
  | .null => some none
  | value => (decode value).map some

def list? {α : Type} (decode : Json → Option α) : Json → Option (List α)
  | .array items => items.mapM decode
  | _ => none

end Json

end FlatFile
