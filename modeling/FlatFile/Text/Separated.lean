/-
  FlatFile/Text/Separated.lean
  ============================
  **Text made of tokens with a separator between them.**

  `split` cuts a text at the occurrences of a separator, found from left to
  right and never overlapping; `join` puts the separator back between the
  tokens.  A text with `n` such occurrences has `n + 1` tokens, any of which may
  be empty.  The empty separator occurs before, between and after all
  characters, so it cuts a text into its characters and an empty token at either
  end.
-/

namespace FlatFile.Text

/-- The tokens of a text, given the characters of the separator found last that are
    still to be passed over (`skip`) and the current token so far, last character
    first. -/
def splitFrom (separator : List Char) : Nat → List Char → List Char → List (List Char)
  | _, token, [] => [token.reverse]
  | skip + 1, token, _ :: rest => splitFrom separator skip token rest
  | 0, token, c :: rest =>
    if separator.isPrefixOf (c :: rest) then
      token.reverse :: splitFrom separator (separator.length - 1) [] rest
    else splitFrom separator 0 (c :: token) rest

/-- The tokens between the occurrences of the separator. -/
def split (separator text : List Char) : List (List Char) :=
  if separator.isEmpty then [] :: (text.map fun c => [c]) ++ [[]]
  else splitFrom separator 0 [] text

/-- The tokens with the separator between any two of them. -/
def join (separator : List Char) (tokens : List (List Char)) : List Char :=
  separator.intercalate tokens

/-- The text after an initial piece, if it starts with that piece. -/
def after? : List Char → List Char → Option (List Char)
  | [], text => some text
  | _ :: _, [] => none
  | p :: piece, c :: text => if p = c then after? piece text else none

def startsWith (piece text : List Char) : Bool := piece.isPrefixOf text

end FlatFile.Text
