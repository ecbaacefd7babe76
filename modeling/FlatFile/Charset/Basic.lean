/-
  FlatFile/Charset/Basic.lean
  ===========================
  **The charsets of flat files and documents.**

  A charset is one of the two Unicode encodings in use on the wire (UTF-8, and
  UTF-16 in either byte order), a single-byte page, the page that maps its upper
  half to the private use area, the charset of content that must not be
  interpreted (`replacement`), or one of the East Asian multibyte sets.  Of the
  last only the names stand here; how they are read and written is a parameter
  (`MultibyteCodecs`).

  A document is never produced in UTF-16 or in `replacement`: `output` names the
  charset used instead.
-/
import FlatFile.Charset.CodePage

namespace FlatFile

/-- The character U+FFFD, read in place of malformed input. -/
def replacementChar : Char := '\uFFFD'

/-- The multibyte sets, known by name and label. -/
inductive MultibyteSet where
  | gbk
  | gb18030
  | big5
  | eucJp
  | iso2022Jp
  | shiftJis
  | eucKr
deriving DecidableEq, Repr

inductive Charset where
  | utf8
  | utf16le
  | utf16be
  | replacement
  | userDefined
  | page (codePage : CodePage)
  | multibyte (set : MultibyteSet)
deriving DecidableEq, Repr

def MultibyteSet.name : MultibyteSet → String
  | .gbk => "GBK"
  | .gb18030 => "gb18030"
  | .big5 => "Big5"
  | .eucJp => "EUC-JP"
  | .iso2022Jp => "ISO-2022-JP"
  | .shiftJis => "Shift_JIS"
  | .eucKr => "EUC-KR"

namespace Charset

/-- The name by which a document declares the charset. -/
def name : Charset → String
  | .utf8 => "UTF-8"
  | .utf16le => "UTF-16LE"
  | .utf16be => "UTF-16BE"
  | .replacement => "replacement"
  | .userDefined => "x-user-defined"
  | .page codePage => codePage.name
  | .multibyte set => set.name

/-- The charset in which text meant for this one is written. -/
def output : Charset → Charset
  | .utf16le | .utf16be | .replacement => .utf8
  | charset => charset

/-- The Unicode encodings may begin with a byte order mark, which is no part of the
    text. -/
def hasByteOrderMark : Charset → Bool
  | .utf8 | .utf16le | .utf16be => true
  | _ => false

end Charset

/-- The character U+FEFF, a byte order mark when it comes first. -/
def byteOrderMark : Char := '\uFEFF'

end FlatFile
