/-
  FlatFile/Failure.lean
  =====================
  **Why a conversion does not happen, or stops.**

  A `Failure` is a cause: a setting that contradicts another one or itself, an
  unknown charset, a line that the layout cannot cut, an operation of the outside
  world that failed, a document that cannot be read, or settings that are not
  well formed.  The wording of every cause is in this file and in
  `Markup/Fault.lean`, and nowhere else.

  Settings are checked before anything is read, so the first two kinds never
  arise once a conversion exists.
-/
import FlatFile.Markup.Fault
import FlatFile.Text.Quoted

namespace FlatFile

/-! ### The outside world -/

/-- What went wrong while reading or writing bytes. -/
inductive IoKind where
  | notFound
  | permissionDenied
  | connectionReset
  | brokenPipe
  | notADirectory
  | isADirectory
  | unexpectedEof
  | storageFull
  | timedOut
  | wouldBlock
  /-- The operation was cut short and is to be tried again. -/
  | interrupted
  | invalidInput
  | invalidData
  | invalidFilename
  | writeZero
  | other
deriving DecidableEq, Repr

/-- A failed read or write.  The message is absent when the operating system supplied
    it. -/
structure IoFailure where
  kind : IoKind
  message : Option String
deriving DecidableEq, Repr

/-! ### Settings -/

/-- A fault in the settings of a conversion. -/
inductive ConfigurationFault where
  /-- The line terminator is not one single character. -/
  | terminator (text : String)
  | layoutKind (text : String)
  | elementName (name : String)
  /-- A column name that is taken, reserved, or used twice among the attributes of a
      line. -/
  | attributeName (name : String)
  | datePattern (pattern : String)
  | separatorMissing
  | columnWidthsMissing
  | variableLayoutMissing
  | customSplitterMissing
  | discriminatorOutside (index columns : Nat)
  | namesLineOutside (line headerLines : Nat)
deriving DecidableEq, Repr

private def quoted (text : String) : String := String.ofList (Text.quote text.toList)

private def counted (n : Nat) : String := String.ofList (Text.decimal n)

def ConfigurationFault.message : ConfigurationFault → String
  | .terminator text => "line terminator must be a single character, got " ++ quoted text
  | .layoutKind text => "unknown layout kind " ++ quoted text
  | .elementName name => quoted name ++ " is not a valid XML element name"
  | .attributeName name => "column name " ++ quoted name ++ " cannot be used as a line attribute"
  | .datePattern pattern => "invalid date pattern " ++ quoted pattern
  | .separatorMissing => "delimited layout requires a separator"
  | .columnWidthsMissing => "fixed layout requires columnWidths"
  | .variableLayoutMissing => "variable layout requires variableLayout"
  | .customSplitterMissing => "variable-custom layout requires a custom extractor"
  | .discriminatorOutside index columns =>
    "discriminator index " ++ counted index ++ " is outside the " ++ counted columns
      ++ " prefix columns"
  | .namesLineOutside line headerLines =>
    "namesFromHeaderLine " ++ counted line ++ " is outside the " ++ counted headerLines
      ++ " header lines"

/-! ### Lines -/

/-- A line that the layout cannot cut into columns. -/
inductive LayoutFault where
  /-- The line ends before the column that tells its layout. -/
  | discriminatorUnreached (characters column : Nat)
  /-- A splitter supplied from outside refuses the line. -/
  | refused (reason : String)
deriving DecidableEq, Repr

def LayoutFault.message : LayoutFault → String
  | .discriminatorUnreached characters column =>
    "line of " ++ counted characters ++ " characters does not reach discriminator column "
      ++ counted column
  | .refused reason => reason

/-! ### Documents -/

/-- A document from which no lines can be recovered. -/
inductive DocumentFault where
  | markup (fault : MarkupFault)
  | reference (fault : ReferenceFault)
  /-- The bytes of the document could not be read. -/
  | unreadable (failure : IoFailure)
deriving DecidableEq, Repr

def DocumentFault.message : DocumentFault → String
  | .markup fault => "XML parsing error: " ++ fault.message
  | .reference fault => "Invalid XML escape: " ++ fault.message
  | .unreadable failure => "XML parsing error: I/O error: " ++ failure.message.getD ""

/-! ### Failures -/

/-- The cause for which a conversion is refused or ends early. -/
inductive Failure where
  | configuration (fault : ConfigurationFault)
  | unknownCharset (label : String)
  | layout (fault : LayoutFault)
  | io (failure : IoFailure)
  | document (fault : DocumentFault)
  /-- The settings are not well formed. -/
  | settings
deriving DecidableEq, Repr

namespace Failure

def message : Failure → String
  | .configuration fault => "Configuration: " ++ fault.message
  | .unknownCharset label => "Unsupported encoding: " ++ label
  | .layout fault => "Layout: " ++ fault.message
  | .io failure => "I/O: " ++ failure.message.getD ""
  | .document fault => "XML: " ++ fault.message
  | .settings => "JSON configuration: malformed"

/-- A failure as a reader of bytes sees it: one of the outside world passes as it is,
    any other one makes the data invalid. -/
def asIo : Failure → IoFailure
  | .io failure => failure
  | other => ⟨.invalidData, some other.message⟩

end Failure

end FlatFile
