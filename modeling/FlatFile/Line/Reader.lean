/-
  FlatFile/Line/Reader.lean
  =========================
  **Lines read from a source of bytes.**

  A line reader decodes its source block by block and hands out one line at a
  time.  It holds no more than the text of the unfinished line and of one block:
  a block is read only when the text at hand has no complete line.  The search
  for the end of a line goes on where it stopped, so a line that spans many
  blocks is looked through once.

  A failed read is handed out once, after every line completed before it; from
  then on, and after the last line, there is nothing more.  A read that was
  interrupted is simply tried again.
-/
import FlatFile.Charset.Decoder
import FlatFile.Line.Basic
import FlatFile.Stream.Source

namespace FlatFile

/-! ### The text at hand -/

/-- Text decoded but not yet handed out. -/
structure LineBuffer where
  decoder : Decoder
  terminator : Line.Terminator
  backlog : List Char
  /-- How much of the backlog is known to hold no complete line. -/
  scanned : Nat
  /-- The source is exhausted. -/
  ended : Bool
deriving DecidableEq, Repr

variable [MultibyteCodecs]

namespace LineBuffer

def new (charset : Charset) (terminator : Line.Terminator) : LineBuffer :=
  { decoder := .new charset, terminator, backlog := [], scanned := 0, ended := false }

/-- The text of one more block. -/
def feed (buffer : LineBuffer) (block : List UInt8) : LineBuffer :=
  let (chars, decoder) := buffer.decoder.feed block
  { buffer with decoder, backlog := buffer.backlog ++ chars }

/-- The text of the end of the source. -/
def close (buffer : LineBuffer) : LineBuffer :=
  { buffer with backlog := buffer.backlog ++ buffer.decoder.finish, ended := true }

/-- Where the first line ends, looking only at what was not looked through before. -/
def search (buffer : LineBuffer) : Line.Search :=
  Line.findEnd buffer.terminator buffer.ended buffer.scanned (buffer.backlog.drop buffer.scanned)

def cut (buffer : LineBuffer) : Option (List Char) × LineBuffer :=
  match buffer.search with
  | .found stop next =>
    (some (buffer.backlog.take stop),
      { buffer with backlog := buffer.backlog.drop next, scanned := 0 })
  | .unfinished resume => (none, { buffer with scanned := resume })

/-- Takes the first line of a buffer that gets no more text, terminated or not. -/
def cutLast (buffer : LineBuffer) : Option (List Char) × LineBuffer :=
  match buffer.cut with
  | (some line, buffer) => (some line, buffer)
  | (none, buffer) =>
    if buffer.backlog.isEmpty then (none, buffer)
    else (some buffer.backlog, { buffer with backlog := [], scanned := 0 })

end LineBuffer

/-! ### The reader -/

/-- A reader of lines: the text at hand and the reads still to come. -/
structure LineReader where
  buffer : LineBuffer
  source : Source
  failed : Bool
deriving DecidableEq, Repr

namespace LineReader

def new (source : Source) (charset : Charset) (terminator : Line.Terminator) : LineReader :=
  { buffer := .new charset terminator, source := source.inBlocks, failed := false }

/-- The next line of a source that still has to be read. -/
def pull (buffer : LineBuffer) (source : Source) :
    Option (Except IoFailure (List Char)) × LineReader :=
  match buffer.cut with
  | (some line, buffer) => (some (.ok line), ⟨buffer, source, false⟩)
  | (none, buffer) =>
    match source with
    | [] =>
      let (line, buffer) := buffer.close.cutLast
      (line.map .ok, ⟨buffer, [], false⟩)
    | .data [] :: rest =>
      let (line, buffer) := buffer.close.cutLast
      (line.map .ok, ⟨buffer, rest, false⟩)
    | .data (b :: bytes) :: rest => pull (buffer.feed (b :: bytes)) rest
    | .failure failure :: rest =>
      if failure.kind = .interrupted then pull buffer rest
      else (some (.error failure), ⟨buffer, rest, true⟩)

/-- **The next line**, the failure that ends them, or nothing. -/
def next (reader : LineReader) : Option (Except IoFailure (List Char)) × LineReader :=
  if reader.failed then (none, reader)
  else if reader.buffer.ended then
    let (line, buffer) := reader.buffer.cutLast
    (line.map .ok, { reader with buffer })
  else pull reader.buffer reader.source

end LineReader

end FlatFile
