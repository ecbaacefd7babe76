/-
  FlatFile/Recovery/Run.lean
  ==========================
  **Recovering the lines of a file from its document.**

  The document is read block by block, decoded, and taken character by character
  in windows of the size of a block.  Each comment outside line elements is a header
  line, each line element a line; it is written as soon as its element is complete.
  The first failure ends the run: what was written before it stays written, and
  nothing of the line at hand is.
-/
import FlatFile.Charset.Decoder
import FlatFile.Charset.Encoder
import FlatFile.Markup.Reader
import FlatFile.Recovery.Record
import FlatFile.Stream.Sink

namespace FlatFile

/-- How far the recovery of a document has come. -/
structure RecoveryState where
  decoder : Decoder
  reader : Markup.Reader
  /-- The line element at hand. -/
  record : Option Record
  /-- The column element at hand: the position of its tag, and its raw value. -/
  column : Option (Option UInt64 × Growing Char)
  /-- The lines written. -/
  written : Nat
  sink : Sink

/-- The failure that ends a run, if there is one, and how far it came. -/
abbrev RecoveryStep := Option Failure × RecoveryState

namespace RecoveryState

/-- Adds raw text to the column at hand or else to the line at hand. -/
def addText (state : RecoveryState) (raw : List Char) : RecoveryState :=
  match state.column with
  | some (position, value) => { state with column := some (position, value.add raw) }
  | none => { state with record := state.record.map fun record => record.addText raw }

end RecoveryState

namespace Recovery

/-! ### Events -/

variable [MultibyteCodecs]

def write (recovery : Recovery) (state : RecoveryState) (line : List Char) : RecoveryStep :=
  match state.sink.writeAll (recovery.lineBytes line) with
  | (none, sink) => (none, { state with sink, written := state.written + 1 })
  | (some failure, sink) => (some (.io failure), { state with sink })

def writeRecord (recovery : Recovery) (state : RecoveryState) (record : Record) : RecoveryStep :=
  match recovery.line record with
  | .ok line => recovery.write state line
  | .error fault => (some (.document (.reference fault)), state)

/-- The text of a header line in its comment: a space at either end is not part of it. -/
def headerLine (content : List Char) : List Char :=
  let content := match content with
    | ' ' :: rest => rest
    | _ => content
  match content.reverse with
  | ' ' :: rest => rest.reverse
  | _ => content

def isLineName (recovery : Recovery) (name : List Char) : Bool :=
  Markup.localName name == recovery.style.lineName.toList

/-- What an event of the document does. -/
def handle (recovery : Recovery) (state : RecoveryState) (event : Markup.Event) : RecoveryStep :=
  match event with
  | .comment content =>
    match state.record with
    | none => recovery.write state (headerLine content)
    | some _ => (none, state)
  | .start tag =>
    match state.record with
    | none =>
      (none,
        if recovery.isLineName tag.name then { state with record := some (recovery.opened tag) }
        else state)
    | some _ => (none, { state with column := some (recovery.positionOfTag? tag, .empty) })
  | .empty tag =>
    match state.record with
    | none =>
      if recovery.isLineName tag.name then recovery.writeRecord state (recovery.opened tag)
      else (none, state)
    | some record =>
      (none, { state with record := some (record.addColumn (recovery.positionOfTag? tag) []) })
  | .text raw => (none, state.addText raw)
  | .reference name => (none, state.addText ('&' :: name ++ [';']))
  | .cdata content => (none, state.addText (Markup.escape content))
  | .finish name =>
    match state.column, state.record with
    | some (position, value), some record =>
      (none, { state with column := none, record := some (record.addColumn position value.toList) })
    | some _, none => (none, { state with column := none })
    | none, some record =>
      if recovery.isLineName name then recovery.writeRecord { state with record := none } record
      else (none, state)
    | none, none => (none, state)
  | .other => (none, state)

/-! ### Characters and blocks -/

/-- What an event, if there is one, does. -/
def handleOption (recovery : Recovery) (state : RecoveryState) :
    Option Markup.Event → RecoveryStep
  | none => (none, state)
  | some event => recovery.handle state event

/-- What a character of the document does. -/
def takeChar (recovery : Recovery) (state : RecoveryState) (c : Char) : RecoveryStep :=
  match state.reader.step c with
  | .error fault => (some (.document (.markup fault)), state)
  | .ok (event, reader) => recovery.handleOption { state with reader } event

/-- What the characters of the document do, up to the first failure. -/
def takeChars (recovery : Recovery) (state : RecoveryState) : List Char → RecoveryStep
  | [] => (none, state)
  | c :: rest =>
    match recovery.takeChar state c with
    | (none, state) => recovery.takeChars state rest
    | failed => failed

/-- A text in windows of `blockSize` bytes of UTF-8, with room for so many bytes in the
    first one; a character across the edge belongs to the earlier window. -/
def windows (room : Nat) : List Char → List (List Char)
  | [] => []
  | c :: rest =>
    if c.utf8Size < room then
      match windows (room - c.utf8Size) rest with
      | [] => [[c]]
      | window :: more => (c :: window) :: more
    else [c] :: windows (room + blockSize - c.utf8Size) rest

omit [MultibyteCodecs] in
theorem windows_flatten (room : Nat) (chars : List Char) :
    (windows room chars).flatten = chars := by
  induction chars generalizing room with
  | nil => rfl
  | cons c rest ih =>
    have inside := ih (room - c.utf8Size)
    unfold windows
    split
    · split <;> simp_all
    · simp [ih]

/-- What windows of text do, up to the first failure. -/
def takeWindows (recovery : Recovery) (state : RecoveryState) : List (List Char) → RecoveryStep
  | [] => (none, state)
  | window :: rest =>
    match recovery.takeChars state window with
    | (none, state) => recovery.takeWindows { state with reader := state.reader.pause } rest
    | failed => failed

/-- What a block of the document does. -/
def takeBlock (recovery : Recovery) (state : RecoveryState) (block : List UInt8) : RecoveryStep :=
  let (chars, decoder) := state.decoder.feed block
  recovery.takeWindows { state with decoder } (windows blockSize chars)

/-- What the end of the document does. -/
def takeEnd (recovery : Recovery) (state : RecoveryState) : RecoveryStep :=
  match recovery.takeChars state state.decoder.finish with
  | (some failure, state) => (some failure, state)
  | (none, state) =>
    match state.reader.finish with
    | .error fault => (some (.document (.markup fault)), state)
    | .ok event =>
      match recovery.handleOption state event with
      | (some failure, state) => (some failure, state)
      | (none, state) => (state.sink.flushFailure.map .io, state)

/-! ### The run -/

/-- The outcome of a run: the number of lines written or the failure that ended it, the
    sink, and how many reads were made. -/
structure Outcome where
  result : Except Failure Nat
  sink : Sink
  reads : Nat

/-- The outcome of a run whose last step was this one. -/
def outcome (reads : Nat) : RecoveryStep → Outcome
  | (none, state) => ⟨.ok state.written, state.sink, reads⟩
  | (some failure, state) => ⟨.error failure, state.sink, reads⟩

/-- The run from a state on, after `reads` reads. -/
def runFrom (recovery : Recovery) (state : RecoveryState) (reads : Nat) : Source → Outcome
  | [] => outcome reads (recovery.takeEnd state)
  | .data [] :: _ => outcome (reads + 1) (recovery.takeEnd state)
  | .data (b :: bytes) :: rest =>
    match recovery.takeBlock state (b :: bytes) with
    | (none, state) => recovery.runFrom state (reads + 1) rest
    | failed => outcome (reads + 1) failed
  | .failure failure :: rest =>
    if failure.kind = .interrupted then recovery.runFrom state (reads + 1) rest
    else outcome (reads + 1) (some (.document (.unreadable failure)), state)

/-- **Recovers the lines of a document into a sink.** -/
def run (recovery : Recovery) (document : Source) (sink : Sink) : Outcome :=
  match recovery.style.outputCharset? with
  | .error failure => ⟨.error failure, sink, 0⟩
  | .ok charset =>
    recovery.runFrom
      { decoder := .new charset, reader := .new, record := none, column := none, written := 0,
        sink }
      0 document.inBlocks

end Recovery

end FlatFile
