/-
  FlatFile/Markup/Fault.lean
  ==========================
  **What can be wrong with a document.**

  A `MarkupFault` is found while the document is cut into events: something is
  opened and never closed, tags do not nest, or a construct is not one of those
  that markup knows.  A `ReferenceFault` is found later, when the references
  inside a value are resolved.  Each cause has one wording, given here.
-/
import FlatFile.Text.Numeral

namespace FlatFile

/-- A fault in the structure of a document. -/
inductive MarkupFault where
  /-- The input ends inside a tag, after a `<`. -/
  | tagOpen
  /-- The input ends inside an attribute value; `quote` would close it. -/
  | valueOpen (quote : Char)
  | commentOpen
  | cdataOpen
  | doctypeOpen
  | instructionOpen
  /-- The input ends inside the declaration of the document. -/
  | declarationOpen
  /-- A `<!` that starts nothing known. -/
  | unknownMarkup
  | doctypeWithoutName
  /-- A `&` whose semicolon does not come. -/
  | referenceOpen
  | endTagMismatch (expected found : List Char)
  | endTagUnmatched (found : List Char)
deriving DecidableEq, Repr

namespace MarkupFault

/-- A construct that the input leaves open, and what would have closed it. -/
private def unclosed (what closing : String) : String :=
  what ++ " not closed: `" ++ closing ++ "` not found before end of input"

def message : MarkupFault → String
  | .tagOpen => "syntax error: " ++ unclosed "tag" ">"
  | .valueOpen quote => "syntax error: " ++ unclosed "attribute value" (String.singleton quote)
  | .commentOpen => "syntax error: " ++ unclosed "comment" "-->"
  | .cdataOpen => "syntax error: " ++ unclosed "CDATA" "]]>"
  | .doctypeOpen => "syntax error: " ++ unclosed "DOCTYPE" ">"
  | .instructionOpen => "syntax error: " ++ unclosed "processing instruction" "?>"
  | .declarationOpen => "syntax error: " ++ unclosed "XML declaration" "?>"
  | .unknownMarkup => "syntax error: unknown or missed symbol in markup"
  | .doctypeWithoutName =>
    "ill-formed document: `<!DOCTYPE>` declaration does not contain a name of a document type"
  | .referenceOpen => "ill-formed document: " ++ unclosed "entity or character reference" ";"
  | .endTagMismatch expected found =>
    "ill-formed document: expected `</" ++ String.ofList expected ++ ">`, but `</"
      ++ String.ofList found ++ ">` was found"
  | .endTagUnmatched found =>
    "ill-formed document: close tag `</" ++ String.ofList found
      ++ ">` does not match any open tag"

end MarkupFault

/-- A fault in a reference inside a value.  Positions count the bytes of the value in
    UTF-8. -/
inductive ReferenceFault where
  /-- No semicolon follows the `&` at `first`; `past` is the end of the value. -/
  | unterminated (first past : Nat)
  /-- The name between `first` and `past` is not one of the five known ones. -/
  | unknownEntity (first past : Nat) (name : List Char)
  | signedNumber
  | badDigit
  | noDigits
  | numberTooLarge
  | nul
  | notACodePoint (number : Nat)
deriving DecidableEq, Repr

namespace ReferenceFault

private def number (n : Nat) : String := String.ofList (Text.decimal n)

private def badNumber (reason : String) : String := "invalid character reference: " ++ reason

def message : ReferenceFault → String
  | .unterminated first past =>
    "Error while escaping character at range " ++ number first ++ ".." ++ number past
      ++ ": Cannot find ';' after '&'"
  | .unknownEntity first past name =>
    "at " ++ number first ++ ".." ++ number past ++ ": unrecognized entity `"
      ++ String.ofList name ++ "`"
  | .signedNumber => badNumber "unexpected number sign"
  | .badDigit => badNumber "invalid digit found in string"
  | .noDigits => badNumber "cannot parse integer from empty string"
  | .numberTooLarge => badNumber "number too large to fit in target type"
  | .nul => badNumber "0x0 character is not permitted in XML"
  | .notACodePoint n => badNumber ("`" ++ number n ++ "` is not a valid codepoint")

end ReferenceFault

end FlatFile
