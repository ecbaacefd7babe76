import FlatFile.Calendar.Date
import FlatFile.Calendar.Fields
import FlatFile.Calendar.Pattern
import FlatFile.Calendar.Print
import FlatFile.Calendar.Scan
import FlatFile.Charset.AsciiOnly
import FlatFile.Charset.Basic
import FlatFile.Charset.CodePage
import FlatFile.Charset.Decoder
import FlatFile.Charset.Encoder
import FlatFile.Charset.Label
import FlatFile.Charset.Multibyte
import FlatFile.Charset.Switching
import FlatFile.Column.Compose
import FlatFile.Column.Cut
import FlatFile.Column.Layout
import FlatFile.Column.Splitter
import FlatFile.Conversion
import FlatFile.Document.Assembly
import FlatFile.Document.Drain
import FlatFile.Document.Line
import FlatFile.Document.Origin
import FlatFile.Document.Style
import FlatFile.Failure
import FlatFile.Folder
import FlatFile.Json.Basic
import FlatFile.Json.Number
import FlatFile.Json.Print
import FlatFile.Json.Read
import FlatFile.Line.Basic
import FlatFile.Line.Drain
import FlatFile.Line.Reader
import FlatFile.Markup.Doctype
import FlatFile.Markup.Element
import FlatFile.Markup.Escape
import FlatFile.Markup.Event
import FlatFile.Markup.Fault
import FlatFile.Markup.Name
import FlatFile.Markup.NameSet
import FlatFile.Markup.Reader
import FlatFile.Proofs.Calendar.Range
import FlatFile.Proofs.Charset.Blocks
import FlatFile.Proofs.Charset.Output
import FlatFile.Proofs.Charset.Pages
import FlatFile.Proofs.Charset.Utf8
import FlatFile.Proofs.Column.Branching
import FlatFile.Proofs.Column.Refit
import FlatFile.Proofs.Column.Restore
import FlatFile.Proofs.Document.Attributes
import FlatFile.Proofs.Document.Chunks
import FlatFile.Proofs.Document.Meaning
import FlatFile.Proofs.Document.Names
import FlatFile.Proofs.Document.Reading
import FlatFile.Proofs.Document.Serving
import FlatFile.Proofs.Document.Sound
import FlatFile.Proofs.Document.Stages
import FlatFile.Proofs.Document.Steps
import FlatFile.Proofs.Document.Transcoded
import FlatFile.Proofs.Document.Tree
import FlatFile.Proofs.Document.Whole
import FlatFile.Proofs.Line.Ending
import FlatFile.Proofs.Line.Failing
import FlatFile.Proofs.Line.Schedule
import FlatFile.Proofs.Line.Search
import FlatFile.Proofs.Markup.Attributes
import FlatFile.Proofs.Markup.Escaping
import FlatFile.Proofs.Markup.Forest
import FlatFile.Proofs.Markup.Names
import FlatFile.Proofs.Markup.Passages
import FlatFile.Proofs.Markup.Reading
import FlatFile.Proofs.Markup.Ready
import FlatFile.Proofs.Markup.Sound
import FlatFile.Proofs.Markup.Spelling
import FlatFile.Proofs.Markup.Steps
import FlatFile.Proofs.Markup.Transcoded
import FlatFile.Proofs.Markup.Tree
import FlatFile.Proofs.Recovery.Branching
import FlatFile.Proofs.Recovery.Columns
import FlatFile.Proofs.Recovery.Counting
import FlatFile.Proofs.Recovery.CutShort
import FlatFile.Proofs.Recovery.Events
import FlatFile.Proofs.Recovery.Halting
import FlatFile.Proofs.Recovery.Journal
import FlatFile.Proofs.Recovery.Lines
import FlatFile.Proofs.Recovery.Naming
import FlatFile.Proofs.Recovery.Normal
import FlatFile.Proofs.Recovery.Parts
import FlatFile.Proofs.Recovery.Positions
import FlatFile.Proofs.Recovery.Regained
import FlatFile.Proofs.Recovery.Reserved
import FlatFile.Proofs.Recovery.RoundTrip
import FlatFile.Proofs.Recovery.Settling
import FlatFile.Proofs.Recovery.Sound
import FlatFile.Proofs.Recovery.Verbatim
import FlatFile.Proofs.Recovery.Written
import FlatFile.Proofs.Settings.Accepted
import FlatFile.Proofs.Stream.Content
import FlatFile.Proofs.Text.Numerals
import FlatFile.Proofs.Value.Ready
import FlatFile.Recovery.Record
import FlatFile.Recovery.Run
import FlatFile.Settings.Basic
import FlatFile.Settings.Build
import FlatFile.Settings.Json
import FlatFile.Stream.Growing
import FlatFile.Stream.Sink
import FlatFile.Stream.Source
import FlatFile.Text.Blank
import FlatFile.Text.Invisible
import FlatFile.Text.Numeral
import FlatFile.Text.Quoted
import FlatFile.Text.Separated
import FlatFile.Value.Converter
import FlatFile.Value.Table
import FlatFile.Column.Offset
import FlatFile.Proofs.Column.Offset
import FlatFile.Proofs.Column.Slots
import FlatFile.Proofs.Markup.Pauses
import FlatFile.Proofs.Recovery.Transcoder
import FlatFile.Proofs.Recovery.Schedule
import FlatFile.Proofs.Document.Failing
import FlatFile.Proofs.Recovery.Unreadable
import FlatFile.Proofs.Column.Leftmost
import FlatFile.Proofs.Column.LaidOut
import FlatFile.Proofs.Recovery.Placement
import FlatFile.Proofs.Recovery.Order
import FlatFile.Proofs.Recovery.Unnumbered
import FlatFile.Proofs.Value.Number
import FlatFile.Proofs.Calendar.Plain
import FlatFile.Proofs.Calendar.Scanning
import FlatFile.Proofs.Value.Date
import FlatFile.Proofs.Recovery.Overflow
import FlatFile.Proofs.Json.Reading
import FlatFile.Proofs.Settings.Reading
import FlatFile.Line.Offset
import FlatFile.Proofs.Line.Offset
