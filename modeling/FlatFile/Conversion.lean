/-
  FlatFile/Conversion.lean
  ========================
  **Converting flat files into documents and back.**

  A conversion is made of settings once, and every setting is checked then.  It
  can be used for any number of files: `wrap` makes the document of a file,
  `recover` regenerates the lines of a document.  A document in the making is a
  source of bytes as well, and `recoverFrom` takes what is left of one.
-/
import FlatFile.Document.Drain
import FlatFile.Recovery.Run
import FlatFile.Settings.Basic

namespace FlatFile

/-- Settings that have been checked, and what follows from them. -/
structure Conversion where
  settings : Settings
  /-- The charset of the lines. -/
  charset : Charset
  terminator : Line.Terminator
  layout : Option ColumnLayout

namespace Conversion

/-! ### Documents -/

/-- The document of the lines of a reader. -/
def assembly? (settings : Settings) (layout : Option ColumnLayout) (reader : LineReader)
    (origin : Origin) : Except Failure Assembly :=
  Assembly.new? reader origin settings.style layout settings.columnConverters

variable [MultibyteCodecs]

/-- **A conversion by the given settings**; the first setting at fault is reported.  What
    concerns the document is checked by starting one without lines. -/
def new? (settings : Settings) (custom : Option LineSplitter) : Except Failure Conversion := do
  let charset ← Charset.resolve? settings.encoding
  let terminator ← Line.terminator? settings.lineTerminator
  settings.checkNamesLine
  let layout ← settings.columnLayout custom
  let _ ← assembly? settings layout (.new [] charset terminator) ⟨"", ""⟩
  return { settings, charset, terminator, layout }

/-- **The document of a file** with a path, of which only the name is used. -/
def wrap (conversion : Conversion) (source : Source) (path : String) : Except Failure Assembly :=
  assembly? conversion.settings conversion.layout
    (.new source conversion.charset conversion.terminator) (.ofPath path)

/-! ### Lines -/

/-- How the lines of a document are recovered. -/
def recovery (conversion : Conversion) : Recovery where
  style := conversion.settings.style
  layout := conversion.layout
  converters := conversion.settings.columnConverters
  charset := conversion.charset
  terminator := conversion.terminator

/-- **The lines of a document**, written into a sink. -/
def recover (conversion : Conversion) (document : Source) (sink : Sink) : Recovery.Outcome :=
  conversion.recovery.run document sink

/-- The lines of what is left of a document in the making, and the document as far as it
    was read for them. -/
def recoverFrom (conversion : Conversion) (assembly : Assembly) (sink : Sink) :
    Recovery.Outcome × Assembly :=
  let readings := assembly.readings
  let outcome := conversion.recovery.run (readings.map Prod.fst) sink
  match (readings.take outcome.reads).getLast? with
  | some (_, after) => (outcome, after)
  | none => (outcome, assembly)

/-- Copies a document as it is: the number of bytes copied or the failure that ended the
    copy, and the sink. -/
def copy (source : Source) (sink : Sink) : Except Failure Nat × Sink :=
  match sink.copyFrom 0 source with
  | (.ok copied, sink) => (.ok copied, sink)
  | (.error failure, sink) => (.error (.io failure), sink)

end Conversion

end FlatFile
