/-
  FlatFile/Proofs/Recovery/Counting.lean
  ======================================
  **A document gives back a line for each line that went into it.**

  What a line element writes may differ from its line, but it is always one line: the
  values in a document are escaped, so the record that they gather in has a line
  (`exists_line`), whatever positions its columns come to.  Between the line elements
  nothing is written but the header lines.  So no name of an element or a column can make
  a difference to the number of lines (`recovers_lineForLine`), with one exception: where
  the root has the name of line elements, it is taken for one (`root_taken_for_line`).
-/
import FlatFile.Charset.AsciiOnly
import FlatFile.Proofs.Document.Steps
import FlatFile.Proofs.Recovery.Verbatim
import Mathlib.Tactic.Choose

namespace FlatFile

open Markup

/-- What can be read from each item can be read from all of them. -/
theorem exists_mapM {α β ε : Type} {f : α → Except ε β} {items : List α}
    (each : ∀ item ∈ items, ∃ value, f item = .ok value) :
    ∃ values, items.mapM f = .ok values := by
  induction items with
  | nil => exact ⟨[], rfl⟩
  | cons item items ih =>
    rcases List.forall_mem_cons.mp each with ⟨⟨value, here⟩, others⟩
    obtain ⟨values, rest⟩ := ih others
    refine ⟨value :: values, ?_⟩
    rw [List.mapM_cons, here, rest]
    rfl

namespace Record

/-- **The references in a record can be resolved**, those in its text and those in its columns. -/
structure Resolves (record : Record) : Prop where
  text : ∃ line, unescape record.text.toList = .ok line
  columns : ∀ column ∈ record.columns, ∃ value, unescape column.2 = .ok value

theorem resolves_empty : Resolves {} := by
  constructor
  · exact ⟨[], rfl⟩
  · intro column inside
    cases inside

theorem eq_or_mem_of_mem_placeColumn {position : UInt64} {raw : List Char}
    {columns : List (UInt64 × List Char)} {column : UInt64 × List Char}
    (inside : column ∈ placeColumn position raw columns) :
    column = (position, raw) ∨ column ∈ columns := by
  induction columns with
  | nil => exact .inl (List.mem_singleton.mp inside)
  | cons first columns ih =>
    rw [placeColumn] at inside
    split at inside
    · exact List.mem_cons.mp inside
    · split at inside
      · rcases List.mem_cons.mp inside with here | there
        · exact .inl here
        · exact .inr (List.mem_cons_of_mem _ there)
      · rcases List.mem_cons.mp inside with rfl | there
        · exact .inr List.mem_cons_self
        · rcases ih there with here | there
          · exact .inl here
          · exact .inr (List.mem_cons_of_mem _ there)

theorem Resolves.addColumn {record : Record} (resolves : record.Resolves)
    (position : Option UInt64) {raw : List Char} (resolved : ∃ value, unescape raw = .ok value) :
    (record.addColumn position raw).Resolves := by
  constructor
  · exact resolves.text
  · intro column inside
    rcases eq_or_mem_of_mem_placeColumn inside with rfl | inside
    · exact resolved
    · exact resolves.columns column inside

theorem Resolves.gather {record : Record} (resolves : record.Resolves)
    (sightings : List Sighting) : (record.gather sightings).Resolves := by
  induction sightings generalizing record with
  | nil => exact resolves
  | cons sighting sightings ih =>
    apply ih
    exact resolves.addColumn sighting.1 ⟨sighting.2, unescape_escape sighting.2⟩

theorem mem_of_mem_slotsBelow {position : Nat} {columns : List (UInt64 × List Char)}
    {slots : List (Option (List Char))} {raw : List Char}
    (inside : some raw ∈ slotsBelow position columns slots) :
    (∃ column ∈ columns, column.2 = raw) ∨ some raw ∈ slots := by
  induction position generalizing columns slots with
  | zero => exact .inr inside
  | succ position ih =>
    cases columns with
    | nil =>
      rw [slotsBelow] at inside
      rcases ih inside with ⟨column, member, -⟩ | inside
      · cases member
      · exact .inr (by simpa using inside)
    | cons first columns =>
      rw [slotsBelow] at inside
      split at inside
      · rcases ih inside with ⟨column, member, same⟩ | inside
        · exact .inl ⟨column, List.mem_cons_of_mem _ member, same⟩
        · rcases List.mem_cons.mp inside with here | inside
          · exact .inl ⟨first, List.mem_cons_self, (Option.some.inj here).symm⟩
          · exact .inr inside
      · rcases ih inside with found | inside
        · exact .inl found
        · exact .inr (by simpa using inside)

end Record

namespace Recovery

variable {recovery : Recovery} {rendering : Rendering}

/-- **A record whose references can be resolved has a line.** -/
theorem exists_line (recovery : Recovery) {record : Record} (resolves : record.Resolves) :
    ∃ line, recovery.line record = .ok line := by
  unfold line
  split
  · exact resolves.text
  · have each : ∀ slot ∈ record.slots.zipIdx,
        ∃ value, recovery.value slot.1 slot.2 = .ok value := by
      intro slot inside
      rcases slot with ⟨raw?, position⟩
      cases raw? with
      | none => exact ⟨_, rfl⟩
      | some raw =>
        rcases Record.mem_of_mem_slotsBelow (List.fst_mem_of_mem_zipIdx inside) with
          ⟨column, member, same⟩ | nothing
        · obtain ⟨value, resolved⟩ := resolves.columns column member
          rw [same] at resolved
          simp only [Recovery.value, resolved]
          exact ⟨_, rfl⟩
        · cases nothing
    obtain ⟨values, all⟩ := exists_mapM each
    exact ⟨ColumnLayout.compose recovery.layout values, by rw [all]; rfl⟩

variable [MultibyteCodecs]

/-- A line that is not divided comes back from its element. -/
theorem Accords.writesBack_undivided (accords : recovery.Accords rendering)
    (undivided : rendering.layout = none) (line : List Char) :
    recovery.WritesBack rendering line line := by
  intro number before
  have named := isLineName_lineName accords.style accords.line
  have columnless := recovery.opened_lineFacts rendering rendering.style.lineName.toList number line
  unfold Rendering.lineNode
  dsimp only
  rw [undivided, Option.isNone_none, if_pos rfl]
  cases line with
  | nil =>
    apply writes_emptyLine named
    rw [columnless]
    rfl
  | cons c line => exact writes_textLine named columnless (unescape_escape (c :: line)) before

/-- **Every line element writes one line.** -/
theorem Accords.exists_writesBack (accords : recovery.Accords rendering) (line : List Char) :
    ∃ restored, recovery.WritesBack rendering line restored := by
  cases layout : rendering.layout with
  | none => exact ⟨line, accords.writesBack_undivided layout line⟩
  | some chosen =>
    have mirrors : recovery.Mirrors rendering := by
      constructor
      · exact accords.style
      · rw [layout, Option.isNone_some]
      · exact accords.line
      · exact accords.column
      · exact accords.proper
    have resolves : (recovery.gathered rendering line).Resolves := Record.resolves_empty.gather _
    obtain ⟨restored, composed⟩ := recovery.exists_line resolves
    exact ⟨restored, mirrors.writesBack composed⟩

end Recovery

namespace Conversion

variable {settings : Settings} {custom : Option LineSplitter} {conversion : Conversion}

section

variable [MultibyteCodecs]

/-- **A document gives back a line for each line of its file**, whatever the names of elements and
    columns, the layout and the flags: the header lines first, then one line for each other line.
    Only the root must not have the name of line elements. -/
theorem recovers_lineForLine (accepted : new? settings custom = .ok conversion)
    (orderly : Orderly settings) (source : Source) (path : String) :
    ∃ assembly, conversion.wrap source path = .ok assembly
      ∧ ∀ blocks : List (List UInt8), assembly.drain.1.map Prod.fst = blocks.map .ok →
        ∃ restored : List Char → List Char, conversion.Recovers source blocks.flatten
          ((conversion.header source).map hyphensApart
            ++ (conversion.body source).map restored) := by
  have made := made_of_new? accepted
  refine ⟨_, made.wrap_eq orderly.output source path, ?_⟩
  intro blocks produced
  choose restored writesBack using fun line =>
    (made.accords orderly.apart (conversion.header source)).exists_writesBack line
  exact ⟨restored, recovers_of_writesBack orderly made (fun line _ => writesBack line) produced⟩

end

/-- Settings in which lines, columns and a name from the header are called alike. -/
def alikeSettings : Settings :=
  { layout := some .delimited, separator := some ",", docElementName := "Root",
    lineElementName := "Row", columnElementName := "Row", namesFromHeaderLine := some 2,
    headerLineCount := 2, emitColumnNumbers := false, defaultStrip := true }

def alikeSource : Source := [.data (Charset.utf8.encode "--x\nRoot,Row9,Row\n\n a ,b,<\n,".toList)]

/-- A column is called like the root, one like a line and one tells a position that no column
    has. -/
theorem recovers_lineForLine_alike :
    ∃ assembly, wrap ⟨alikeSettings, .utf8, none, some (.delimited [','])⟩ alikeSource "f.txt"
        = .ok assembly
      ∧ ∃ blocks : List (List UInt8), assembly.drain.1.map Prod.fst = blocks.map .ok
        ∧ (recover ⟨alikeSettings, .utf8, none, some (.delimited [','])⟩
          (.ofBytes blocks.flatten) {}).result = .ok 5 := by
  obtain ⟨assembly, made, all⟩ := @recovers_lineForLine alikeSettings none
    ⟨alikeSettings, .utf8, none, some (.delimited [','])⟩ _ rfl
    ⟨rfl, by decide, rfl, fun _ inside => absurd inside List.not_mem_nil⟩ alikeSource "f.txt"
  refine ⟨assembly, made, ?_⟩
  cases made
  obtain ⟨blocks, produced⟩ := Assembly.exists_blocks alikeSource
    (rendering ⟨alikeSettings, .utf8, none, some (.delimited [','])⟩) rfl
    (Rendering.total_delimited [',']) .utf8 .utf8 none (.ofPath "f.txt")
  obtain ⟨restored, recovers⟩ := all blocks produced
  obtain ⟨result, -⟩ := recovers (.ofBytes blocks.flatten) (Source.failure?_ofBytes _)
    (Source.bytes_ofBytes _) {} ⟨nofun, rfl, rfl⟩
  exact ⟨blocks, produced, result.trans rfl⟩

/-- Settings that give the root the name of line elements. -/
def rootLineSettings : Settings := { docElementName := "Line", emitXmlDeclaration := false }

/-- The root is taken for the first line element, and the lines in it for columns: of two lines
    one comes back. -/
theorem root_taken_for_line :
    new? rootLineSettings none = .ok ⟨rootLineSettings, .utf8, none, none⟩
      ∧ lines ⟨rootLineSettings, .utf8, none, none⟩ [.data [0x61, 0x0A, 0x62]] = [['a'], ['b']]
      ∧ ∃ assembly, wrap ⟨rootLineSettings, .utf8, none, none⟩ [.data [0x61, 0x0A, 0x62]] "f.txt"
        = .ok assembly
      ∧ (assembly.handed 5).map (Option.map Except.toOption) =
        [some (some (Charset.utf8.encode "<Line name=\"f.txt\" location=\"f.txt\">\n".toList)),
          some (some (Charset.utf8.encode "  <Line number=\"1\">a</Line>\n".toList)),
          some (some (Charset.utf8.encode "  <Line number=\"2\">b</Line>\n".toList)),
          some (some (Charset.utf8.encode "</Line>".toList)), none]
      ∧ (recover ⟨rootLineSettings, .utf8, none, none⟩
          (.ofBytes (Charset.utf8.encode ("<Line name=\"f.txt\" location=\"f.txt\">\n" ++
            "  <Line number=\"1\">a</Line>\n" ++ "  <Line number=\"2\">b</Line>\n" ++
            "</Line>").toList)) {}).result.toOption = some 1 := by
  have made : wrap ⟨rootLineSettings, .utf8, none, none⟩ [.data [0x61, 0x0A, 0x62]] "f.txt"
    = .ok _ := rfl
  refine ⟨rfl, rfl, _, made, ?_, ?_⟩
  · decide +kernel
  · decide +kernel

end Conversion

end FlatFile
