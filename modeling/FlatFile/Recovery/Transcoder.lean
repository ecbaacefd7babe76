/-
  FlatFile/Recovery/Transcoder.lean
  =================================
  **A document in any charset, read as UTF-8.**

  A transcoder is asked for at most so many bytes of UTF-8 at a time.  It decodes its
  source block by block and holds what it has decoded until that is served; a block that
  completes no character is followed by the next one, for an answer without bytes would be
  taken for the end.  A read that was interrupted is tried again, and any other failure is
  the answer.

  The windows of a recovery are the answers to requests of the size of a block.
-/
import FlatFile.Charset.Decoder
import FlatFile.Charset.Encoder
import FlatFile.Stream.Source

namespace FlatFile

/-- A document at hand, read as UTF-8. -/
structure Transcoder where
  decoder : Decoder
  /-- The reads still to come. -/
  source : Source
  /-- What has been decoded and not served yet. -/
  pending : List UInt8
  /-- The source is exhausted. -/
  ended : Bool
deriving DecidableEq, Repr

namespace Transcoder

variable [MultibyteCodecs]

def new (charset : Charset) (source : Source) : Transcoder :=
  { decoder := .new charset, source := source.inBlocks, pending := [], ended := false }

/-- Decodes on until there is something to serve, or the source has ended or failed. -/
def fill (decoder : Decoder) : Source → Option IoFailure × Transcoder
  | [] => (none, ⟨decoder, [], Charset.utf8.encode decoder.finish, true⟩)
  | .data [] :: rest => (none, ⟨decoder, rest, Charset.utf8.encode decoder.finish, true⟩)
  | .data (b :: bytes) :: rest =>
    let (chars, decoder) := decoder.feed (b :: bytes)
    let pending := Charset.utf8.encode chars
    if pending.isEmpty then fill decoder rest else (none, ⟨decoder, rest, pending, false⟩)
  | .failure failure :: rest =>
    if failure.kind = .interrupted then fill decoder rest
    else (some failure, ⟨decoder, rest, [], false⟩)

/-- Serves what is pending, as far as there is room for it. -/
def serve (transcoder : Transcoder) (room : Nat) : List UInt8 × Transcoder :=
  (transcoder.pending.take room, { transcoder with pending := transcoder.pending.drop room })

/-- **The next bytes**, none at the end of the document. -/
def read (transcoder : Transcoder) (room : Nat) : Except IoFailure (List UInt8) × Transcoder :=
  if transcoder.pending.isEmpty then
    if transcoder.ended || room == 0 then (.ok [], transcoder)
    else
      match fill transcoder.decoder transcoder.source with
      | (some failure, transcoder) => (.error failure, transcoder)
      | (none, transcoder) => (.ok (transcoder.serve room).1, (transcoder.serve room).2)
  else (.ok (transcoder.serve room).1, (transcoder.serve room).2)

/-- The answers to some requests, one after the other. -/
def readAll (transcoder : Transcoder) :
    List Nat → List (Except IoFailure (List UInt8)) × Transcoder
  | [] => ([], transcoder)
  | room :: rooms =>
    let (answer, transcoder) := transcoder.read room
    let (answers, transcoder) := transcoder.readAll rooms
    (answer :: answers, transcoder)

end Transcoder

end FlatFile
