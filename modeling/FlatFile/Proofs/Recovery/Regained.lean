/-
  FlatFile/Proofs/Recovery/Regained.lean
  ======================================
  **Reading the lines that were written.**

  A run appends to its sink the text of its lines in the output form of their charset.  A
  line reader for that form regains the lines, if no line holds what ends one and the
  charset has all their characters and gives them back (`linesRegained_recover`).

  For most charsets the output form is the charset itself, and then the lines are read like
  the file they came from.  It is not for UTF-16: the lines of a document are written in
  UTF-8 where the settings name UTF-16, and a reader with the same settings does not
  regain them (`wide_lines_lost`).
-/
import FlatFile.Charset.AsciiOnly
import FlatFile.Conversion
import FlatFile.Proofs.Charset.Output
import FlatFile.Proofs.Line.Schedule
import FlatFile.Proofs.Recovery.Written

namespace FlatFile

section

variable [MultibyteCodecs]

theorem LineReader.drain_served {source : Source} (served : source.failure? = none)
    (charset : Charset) (terminator : Line.Terminator) :
    (new source charset terminator).drain.1 =
      (Line.splitLines terminator (charset.decode source.bytes)).map .ok := by
  rw [(drain_eq (sound_new served charset terminator)).1, owed_new]

namespace Recovery

variable {recovery : Recovery} {lines : List (List Char)}

/-- A line with its terminator. -/
def lineText (recovery : Recovery) (line : List Char) : List Char :=
  line ++ [recovery.terminator.getD '\n']

/-- The text of some lines. -/
def textOf (recovery : Recovery) (lines : List (List Char)) : List Char :=
  lines.flatMap recovery.lineText

theorem flatMap_lineBytes (recovery : Recovery) (lines : List (List Char)) :
    lines.flatMap recovery.lineBytes =
      ((lines.map recovery.lineText).map recovery.charset.encode).flatten := by
  rw [List.map_map, List.flatMap_def]
  rfl

/-- **Lines that can be read from their text**: none holds what ends a line, the charset has
    their characters and gives them back, they do not begin with what reads as a byte order mark,
    and each of them can be written after the one before, which does not go without saying in
    ISO-2022-JP only. -/
structure Legible (recovery : Recovery) (lines : List (List Char)) : Prop where
  quiet : ∀ line ∈ lines, Line.Quiet recovery.terminator line
  kept : ∀ c ∈ recovery.textOf lines, recovery.charset.keeps c = true
  unmarked : (recovery.textOf lines).head? ≠ some byteOrderMark
  joined : (lines.map recovery.lineText).IsChain recovery.charset.Joins

instance (recovery : Recovery) (lines : List (List Char)) : Decidable (recovery.Legible lines) :=
  decidable_of_iff
    ((lines.all fun line => decide (Line.Quiet recovery.terminator line)) = true
      ∧ (recovery.textOf lines).all recovery.charset.keeps = true
      ∧ (recovery.textOf lines).head? ≠ some byteOrderMark
      ∧ (lines.map recovery.lineText).IsChain recovery.charset.Joins)
    (by
      simp only [List.all_eq_true, decide_eq_true_eq]
      exact ⟨fun all => ⟨all.1, all.2.1, all.2.2.1, all.2.2.2⟩,
        fun legible => ⟨legible.quiet, legible.kept, legible.unmarked, legible.joined⟩⟩)

theorem Legible.drain_eq [recovery.charset.Lawful] (legible : recovery.Legible lines)
    {source : Source} (served : source.failure? = none)
    (holds : source.bytes = lines.flatMap recovery.lineBytes) :
    (LineReader.new source recovery.charset.output recovery.terminator).drain.1 =
      lines.map .ok := by
  have whole : (lines.map recovery.lineText).flatten = recovery.textOf lines :=
    List.flatMap_def.symm
  rw [LineReader.drain_served served, holds, recovery.flatMap_lineBytes,
    recovery.charset.decode_pieces legible.joined (whole ▸ legible.unmarked), whole,
    Charset.conveyed_eq_self legible.kept]
  exact congrArg _ (Line.splitLines_flatMap legible.quiet)

end Recovery

end

namespace Conversion

section

variable [MultibyteCodecs]

/-- **The lines of a document are regained** from the bytes that a run that succeeds appends to
    its sink, by a line reader for the output form of their charset.  Each line is written by
    itself, which makes a difference in ISO-2022-JP only. -/
theorem linesRegained_recover (conversion : Conversion) [conversion.charset.Lawful]
    {document : Source} {sink : Sink} {count : Nat}
    (succeeded : (conversion.recover document sink).result = .ok count)
    (legible : conversion.recovery.Legible (conversion.recovery.documentLines document)) :
    count = (conversion.recovery.documentLines document).length
      ∧ ∃ bytes, (conversion.recover document sink).sink.accepted = sink.accepted ++ bytes
        ∧ bytes = (conversion.recovery.documentLines document).flatMap conversion.recovery.lineBytes
        ∧ (conversion.charset ≠ .multibyte .iso2022Jp → bytes = conversion.charset.encode
          (conversion.recovery.textOf (conversion.recovery.documentLines document)))
        ∧ ∀ source : Source, source.failure? = none → source.bytes = bytes →
          (LineReader.new source conversion.charset.output conversion.terminator).drain.1 =
            (conversion.recovery.documentLines document).map .ok := by
  have lawful : conversion.recovery.charset.Lawful := ‹conversion.charset.Lawful›
  obtain ⟨counted, accepted⟩ := Recovery.run_adds succeeded
  refine ⟨counted, _, accepted, rfl, ?_, fun source served holds => legible.drain_eq served holds⟩
  intro apart
  rw [Recovery.flatMap_lineBytes, Recovery.textOf, List.flatMap_def]
  exact conversion.charset.encode_flatten apart _

end

/-- Settings for lines in a single-byte charset, with a terminator of their own. -/
def narrowLines : Settings := { encoding := "latin2", lineTerminator := some "|" }

/-- A document in that charset: a header line, a line that is partly spelled out, an empty one. -/
def narrowLinesDocument : Source :=
  .ofBytes ((Charset.page .iso8859x2).encode
    "<a><!-- h --><Line>d&#233;jŕ</Line><Line/></a>".toList)

theorem linesRegained_recover_narrow :
    ∃ bytes, (recover ⟨narrowLines, .page .iso8859x2, some '|', none⟩
        narrowLinesDocument {}).sink.accepted = bytes
      ∧ bytes = [0x68, 0x7C, 0x64, 0xE9, 0x6A, 0xE0, 0x7C, 0x7C]
      ∧ (LineReader.new (.ofBytes bytes) (.page .iso8859x2) (some '|')).drain.1 =
        [.ok ['h'], .ok "déjŕ".toList, .ok []] := by
  have lines : (recovery ⟨narrowLines, .page .iso8859x2, some '|', none⟩).documentLines
      narrowLinesDocument = [['h'], "déjŕ".toList, []] := by decide +kernel
  have legible : (recovery ⟨narrowLines, .page .iso8859x2, some '|', none⟩).Legible
      [['h'], "déjŕ".toList, []] := by decide +kernel
  have counted : (recover ⟨narrowLines, .page .iso8859x2, some '|', none⟩
      narrowLinesDocument {}).result.toOption = some 3 := by decide +kernel
  cases result : (recover ⟨narrowLines, .page .iso8859x2, some '|', none⟩
      narrowLinesDocument {}).result with
  | error failure =>
    rw [result] at counted
    cases counted
  | ok count =>
    obtain ⟨-, bytes, accepted, written, -, regained⟩ := linesRegained_recover
      ⟨narrowLines, .page .iso8859x2, some '|', none⟩ result (by rw [lines]; exact legible)
    rw [lines] at written regained
    exact ⟨bytes, accepted, written.trans (by decide +kernel),
      regained (.ofBytes bytes) (Source.failure?_ofBytes _) (Source.bytes_ofBytes _)⟩

/-- Settings for lines in UTF-16. -/
def wideLines : Settings := { encoding := "utf-16le", outputEncoding := some "utf-8" }

def wideLinesDocument : Source := .ofBytes (Charset.utf8.encode "<a><Line>ab</Line></a>".toList)

/-- The line of a document is written in UTF-8 where the settings name UTF-16, and a reader with
    the same settings regains another line. -/
theorem wide_lines_lost :
    new? wideLines none = .ok ⟨wideLines, .utf16le, none, none⟩
      ∧ (recover ⟨wideLines, .utf16le, none, none⟩ wideLinesDocument {}).result.toOption = some 1
      ∧ (recovery ⟨wideLines, .utf16le, none, none⟩).documentLines wideLinesDocument = [['a', 'b']]
      ∧ (recovery ⟨wideLines, .utf16le, none, none⟩).Legible [['a', 'b']]
      ∧ (recover ⟨wideLines, .utf16le, none, none⟩ wideLinesDocument {}).sink.accepted =
        [0x61, 0x62, 0x0A]
      ∧ (LineReader.new (.ofBytes [0x61, 0x62, 0x0A]) .utf16le none).drain.1 =
        [.ok ['\u6261', '\uFFFD']] := by
  have label : Charset.ofLabel? "utf-16le".toList = some .utf16le := by decide +kernel
  have charset : Charset.resolve? wideLines.encoding = .ok .utf16le := by
    simp only [Charset.resolve?, wideLines, label]
  refine ⟨?_, by decide +kernel, by decide +kernel, by decide +kernel, by decide +kernel, ?_⟩
  · rw [new?, charset]
    rfl
  · have cut : Line.splitLines none (Charset.utf16le.decode [0x61, 0x62, 0x0A]) =
        [['\u6261', '\uFFFD']] := by decide +kernel
    rw [LineReader.drain_served (Source.failure?_ofBytes _), Source.bytes_ofBytes, cut]
    rfl

end Conversion

end FlatFile
