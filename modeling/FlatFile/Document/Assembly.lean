/-
  FlatFile/Document/Assembly.lean
  ===============================
  **A document made of the lines of a file, chunk by chunk.**

  An assembly turns the lines of a reader into the chunks of a document: the
  prologue, a comment for each header line, an element for each further line, the
  footer.  A chunk is made when it is asked for and not before.  The stages only
  ever go forward, and a failure, handed out once, ends the document without a
  footer.

  The document can also be read as bytes: `read` serves what is left of the chunk
  at hand before it asks for another one.  Both ways of taking the document may
  be mixed; they share the chunks between them.
-/
import FlatFile.Charset.Encoder
import FlatFile.Document.Line
import FlatFile.Line.Reader

namespace FlatFile

/-- How far a document has come. -/
inductive Stage where
  | initial
  | header
  | body
  | footer
  | done
deriving DecidableEq, Repr

def Stage.remaining : Stage → Nat
  | .initial => 4
  | .header => 3
  | .body => 2
  | .footer => 1
  | .done => 0

/-- A document in the making. -/
structure Assembly where
  reader : LineReader
  rendering : Rendering
  origin : Origin
  charset : Charset
  stage : Stage
  /-- The header lines so far. -/
  headerLines : Nat
  /-- The further lines so far. -/
  bodyLines : Nat
  /-- What is left to be read of the chunk at hand. -/
  pending : List UInt8

/-- One step of a document: a chunk or the failure that ends it. -/
abbrev Chunk := Except Failure (List UInt8)

namespace Assembly

/-! ### The start -/

def checkName (name : String) : Except Failure Unit :=
  if Markup.isName name.toList then .ok () else .error (.configuration (.elementName name))

/-- The names of the columns among the attributes of a line: none reserved, none used
    twice, the first one at fault reported. -/
def checkAttributeNames (reserved : List (List Char)) : List (List Char) → Except Failure Unit
  | [] => .ok ()
  | name :: names =>
    if reserved.contains name || declaresNamespace name then
      .error (.configuration (.attributeName (String.ofList name)))
    else checkAttributeNames (name :: reserved) names

/-- **An assembly of the lines of a reader.**  Every setting is checked before the first
    line is read. -/
def new? (reader : LineReader) (origin : Origin) (style : DocumentStyle)
    (layout : Option ColumnLayout) (converters : ColumnConverters) : Except Failure Assembly := do
  let charset ← style.outputCharset?
  checkName style.rootName
  checkName style.lineName
  checkName style.columnName
  match layout with
  | some layout => layout.check
  | none => pure ()
  converters.check
  let columnNames := style.columnNames.map fun name => Markup.nameOf? name.toList
  if style.attributes then checkAttributeNames style.reservedNames (columnNames.filterMap id)
  return {
    reader, origin, charset, rendering := { style, layout, converters, columnNames },
    stage := .initial, headerLines := 0, bodyLines := 0, pending := [] }

/-! ### Chunks -/

variable [MultibyteCodecs]

def encoded (assembly : Assembly) (text : List Char) : List UInt8 := assembly.charset.encode text

def fail (assembly : Assembly) (failure : Failure) : Option Chunk × Assembly :=
  (some (.error failure), { assembly with stage := .done })

def nextPrologue (assembly : Assembly) : Option Chunk × Assembly :=
  (some (.ok (assembly.encoded (assembly.rendering.prologue assembly.origin assembly.charset))),
    { assembly with stage := .header })

def nextFooter (assembly : Assembly) : Option Chunk × Assembly :=
  (some (.ok (assembly.encoded assembly.rendering.footer)), { assembly with stage := .done })

/-- The element of the next line, or the footer after the last one. -/
def nextBody (assembly : Assembly) : Option Chunk × Assembly :=
  match assembly.reader.next with
  | (none, reader) => { assembly with reader, stage := .footer }.nextFooter
  | (some (.error failure), reader) => { assembly with reader }.fail (.io failure)
  | (some (.ok line), reader) =>
    let assembly := { assembly with reader, bodyLines := assembly.bodyLines + 1 }
    match assembly.rendering.line assembly.bodyLines line with
    | .ok element => (some (.ok (assembly.encoded element)), assembly)
    | .error failure => assembly.fail failure

/-- The assembly once a header line has been counted and, where it is the one that has
    them, has given the names of the columns. -/
def takeHeader (assembly : Assembly) (line : List Char) : Except Failure Assembly :=
  if assembly.rendering.style.namesLine = some assembly.headerLines then
    (assembly.rendering.namesFrom line).map fun columnNames =>
      { assembly with rendering := { assembly.rendering with columnNames } }
  else .ok assembly

/-- The comment of the next header line, or what comes after the last one. -/
def nextHeader (assembly : Assembly) : Option Chunk × Assembly :=
  if assembly.rendering.style.headerLines ≤ assembly.headerLines then
    { assembly with stage := .body }.nextBody
  else
    match assembly.reader.next with
    | (none, reader) => { assembly with reader, stage := .body }.nextBody
    | (some (.error failure), reader) => { assembly with reader }.fail (.io failure)
    | (some (.ok line), reader) =>
      let counted := { assembly with reader, headerLines := assembly.headerLines + 1 }
      match counted.takeHeader line with
      | .ok assembly => (some (.ok (assembly.encoded (Rendering.headerComment line))), assembly)
      | .error failure => counted.fail failure

/-- **The next chunk**, the failure that ends the document, or nothing. -/
def next (assembly : Assembly) : Option Chunk × Assembly :=
  match assembly.stage with
  | .initial => assembly.nextPrologue
  | .header => assembly.nextHeader
  | .body => assembly.nextBody
  | .footer => assembly.nextFooter
  | .done => (none, assembly)

/-! ### Bytes -/

/-- Serves up to `size` bytes of the chunk at hand. -/
def serve (assembly : Assembly) (size : Nat) : Reading × Assembly :=
  (.data (assembly.pending.take size), { assembly with pending := assembly.pending.drop size })

/-- **Reads up to `size` bytes of the document.**  No bytes mean its end, unless none
    were asked for. -/
def read (assembly : Assembly) (size : Nat) : Reading × Assembly :=
  if size = 0 then (.data [], assembly)
  else if assembly.pending.isEmpty then
    match assembly.next with
    | (none, assembly) => (.data [], assembly)
    | (some (.error failure), assembly) => (.failure failure.asIo, assembly)
    | (some (.ok chunk), assembly) => { assembly with pending := chunk }.serve size
  else assembly.serve size

end Assembly

end FlatFile
