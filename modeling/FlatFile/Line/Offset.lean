/-
  FlatFile/Line/Offset.lean
  =========================
  **Reading lines at byte offsets, step by step.**

  The text at hand is held in UTF-8.  How far it was looked through is an offset into its
  bytes, and so are the bounds of its first line, the end of the line and the beginning of
  the next one.  Text can be taken up to or from an offset only if a character begins there
  or the text ends there; anything else is a fault, and so is a byte past the end.  `none`
  stands for a fault here.

  A call looks for the first line, and as long as there is none it reads one more block and
  looks again.  Each of these is a step, so that the text at hand and the offset can be told
  at any time, also between the steps of one call.  The answers are those of a `LineReader`,
  and no step ever meets a fault.
-/
import FlatFile.Column.Offset
import FlatFile.Line.Reader

namespace FlatFile

namespace Text

/-- The bytes of a text in UTF-8. -/
def utf8 (text : List Char) : List UInt8 := text.flatMap String.utf8EncodeChar

/-- The offset of the first such character. -/
def findOffset? (wanted : Char → Bool) : List Char → Option Nat
  | [] => none
  | c :: rest => if wanted c then some 0 else (findOffset? wanted rest).map (c.utf8Size + ·)

end Text

namespace Line

/-- The bounds of a line that a character at this offset may end, and the offset at which the
    next search starts. -/
def boundsAt? (terminator : Terminator) (ended : Bool) (text : List Char) (stop : Nat) :
    Option (Option (Nat × Nat) × Nat) :=
  match terminator with
  | some own => some (some (stop, stop + own.utf8Size), 0)
  | none => do
    let bytes := Text.utf8 text
    if (← bytes[stop]?) = 0x0A then return (some (stop, stop + 1), 0)
    else
      match bytes[stop + 1]? with
      | some b => return (some (stop, if b = 0x0A then stop + 2 else stop + 1), 0)
      | none =>
        if ended then return (some (stop, stop + 1), 0)
        -- a return at the very end may be the first half of a line ending
        else return (none, stop)

/-- Looks for the first line from an offset on: its bounds, if a line is complete, and the
    offset at which the next search starts. -/
def boundsFrom? (terminator : Terminator) (ended : Bool) (text : List Char) (start : Nat) :
    Option (Option (Nat × Nat) × Nat) := do
  let rest ← Text.fromOffset? start text
  match Text.findOffset? (ends terminator) rest with
  | some offset => boundsAt? terminator ended text (start + offset)
  | none => return (none, Text.byteLength text)

end Line

/-! ### The reader -/

/-- What a call for the next line answers: a line, the failure that ends them, or nothing. -/
abbrev LineAnswer := Option (Except IoFailure (List Char))

/-- What a reader at offsets does next. -/
inductive OffsetReader.Task where
  /-- It waits for a call, which it answers at once if its source has failed. -/
  | call
  /-- It looks for the end of the first line. -/
  | search
  /-- It reads a block. -/
  | fill
deriving DecidableEq, Repr

/-- A reader of lines that holds its text in UTF-8. -/
structure OffsetReader where
  task : OffsetReader.Task
  decoder : Decoder
  terminator : Line.Terminator
  /-- Text decoded but not yet handed out. -/
  backlog : List Char
  /-- The offset in the backlog at which the next search starts. -/
  scanned : Nat
  /-- The source is exhausted. -/
  ended : Bool
  failed : Bool
  source : Source
deriving DecidableEq, Repr

namespace OffsetReader

/-- What one step does. -/
inductive Outcome where
  /-- It goes on within a call. -/
  | moves (reader : OffsetReader)
  /-- It answers a call, and the next one can come. -/
  | answers (answer : LineAnswer) (reader : OffsetReader)

variable [MultibyteCodecs]

def new (source : Source) (charset : Charset) (terminator : Line.Terminator) : OffsetReader :=
  { task := .call, decoder := .new charset, terminator, backlog := [], scanned := 0,
    ended := false, failed := false, source := source.inBlocks }

/-- The bounds of the first line, looked for from an offset on. -/
def bounds? (reader : OffsetReader) (start : Nat) : Option (Option (Nat × Nat) × Nat) :=
  Line.boundsFrom? reader.terminator reader.ended reader.backlog start

/-- Hands out the first line, or the text after the last terminator if no more can come. -/
def search? (reader : OffsetReader) : Option Outcome := do
  match ← reader.bounds? reader.scanned with
  | (some (stop, next), scanned) =>
    let line ← Text.upToOffset? stop reader.backlog
    let backlog ← Text.fromOffset? next reader.backlog
    return .answers (some (.ok line)) { reader with task := .call, backlog, scanned }
  | (none, scanned) =>
    if reader.ended then
      if reader.backlog.isEmpty then
        return .answers none { reader with task := .call, scanned }
      else
        return .answers (some (.ok reader.backlog))
          { reader with task := .call, backlog := [], scanned := 0 }
    else return .moves { reader with task := .fill, scanned }

/-- The text of one block; an empty one is the end of the source. -/
def textOf (reader : OffsetReader) (block : List UInt8) : List Char :=
  if block.isEmpty then reader.decoder.finish else (reader.decoder.feed block).1

/-- Takes in one block. -/
def grow (reader : OffsetReader) (block : List UInt8) (source : Source) : OffsetReader :=
  { reader with
    task := .search
    decoder := if block.isEmpty then reader.decoder else (reader.decoder.feed block).2
    backlog := reader.backlog ++ reader.textOf block
    ended := reader.ended || block.isEmpty
    source }

/-- Reads a block; a read that was interrupted is tried again. -/
def fill (reader : OffsetReader) : Outcome :=
  match reader.source with
  | [] => .moves (reader.grow [] [])
  | .data block :: rest => .moves (reader.grow block rest)
  | .failure failure :: rest =>
    if failure.kind = .interrupted then .moves { reader with source := rest }
    else .answers (some (.error failure))
      { reader with task := .call, failed := true, source := rest }

/-- **One step.** -/
def step? (reader : OffsetReader) : Option Outcome :=
  match reader.task with
  | .call =>
    if reader.failed then some (.answers none reader)
    else some (.moves { reader with task := .search })
  | .search => reader.search?
  | .fill => some reader.fill

/-- **Some steps in a row**, with one call after the other: what they answer, and the reader
    they lead to. -/
def run? : Nat → OffsetReader → Option (List LineAnswer × OffsetReader)
  | 0, reader => some ([], reader)
  | steps + 1, reader => do
    match ← reader.step? with
    | .moves reader => run? steps reader
    | .answers answer reader =>
      let (answers, reader) ← run? steps reader
      return (answer :: answers, reader)

end OffsetReader

end FlatFile
