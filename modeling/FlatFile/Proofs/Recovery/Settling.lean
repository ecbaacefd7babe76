/-
  FlatFile/Proofs/Recovery/Settling.lean
  ======================================
  **A second round trip changes nothing.**

  The lines that come back from a file are its header lines with their hyphens apart and the
  normal forms of the others (`settled`).  They hold no character that ends a line and no byte
  order mark, since every character of them was in the file before or is a space, so they are
  the lines of the file that they make up (`lines_of_settled`), divided into header and body
  where the first file was.  They have a document where the first file had one, and are their
  own normal forms, so they come back from it unchanged (`settles_wrap`).
-/
import FlatFile.Charset.AsciiOnly
import FlatFile.Proofs.Recovery.Normal

namespace FlatFile

open Markup

/-- Changing the first lines in one way and the others in another does not move the boundary. -/
theorem take_map_append_map {α β : Type} (f g : α → β) (n : Nat) (items : List α) :
    ((items.take n).map f ++ (items.drop n).map g).take n = (items.take n).map f
      ∧ ((items.take n).map f ++ (items.drop n).map g).drop n = (items.drop n).map g := by
  rcases Nat.le_total n items.length with long | short
  · have length : ((items.take n).map f).length = n := by
      rw [List.length_map, List.length_take_of_le long]
    exact ⟨List.take_left' length, List.drop_left' length⟩
  · have all : ((items.take n).map f).length ≤ n := by
      rw [List.length_map]
      exact List.length_take_le n items
    rw [List.drop_eq_nil_of_le short, List.map_nil, List.append_nil]
    exact ⟨List.take_of_length_le all, List.drop_eq_nil_of_le all⟩

theorem Decoder.dropMark_of_not_mem {text : List Char} (unmarked : byteOrderMark ∉ text) :
    Decoder.dropMark true text = text := by
  cases text with
  | nil => rfl
  | cons c text =>
    apply if_neg
    intro mark
    exact unmarked (by rw [mark]; exact List.mem_cons_self)

namespace Conversion

variable {settings : Settings} {custom : Option LineSplitter} {conversion : Conversion}
  {source : Source}

/-- **Settings under which lines settle**: lines and document are in UTF-8, lines end as usual, a
    line element is not taken for the root, values are escaped and not converted, each column has
    an element with its number, and a separator is a single character. -/
structure Normalizing (settings : Settings) : Prop extends Orderly settings where
  encoding : Charset.resolve? settings.encoding = .ok .utf8
  terminator : settings.lineTerminator = none
  kept : settings.skipAnyEmptyColumn = false
  kept' : settings.skipEmptyDefaultNamedColumns = false
  elements : settings.columnsAsAttributes = false
  numbered : settings.emitColumnNumbers = true
  supplied : settings.layout ≠ some .variableCustom
  single : settings.layout = some .delimited →
    ∃ separator : Char, settings.separator = some (String.singleton separator)

section

variable [MultibyteCodecs]

/-- **The lines that come back from a file.** -/
def settled (conversion : Conversion) (source : Source) : List (List Char) :=
  (conversion.header source).map hyphensApart
    ++ (conversion.body source).map conversion.rendering.normal

omit [MultibyteCodecs] in
theorem Normalizing.regular (normalizing : Normalizing settings)
    (made : Made settings custom conversion) : ColumnLayout.Regular conversion.layout := by
  have layout := made.layout
  unfold Settings.columnLayout at layout
  cases kind : settings.layout with
  | none =>
    simp only [kind] at layout
    rw [← Except.ok.inj layout]
    exact .none
  | some kind' =>
    cases kind' with
    | fixed =>
      rw [made.fixed kind]
      exact .fixed _
    | delimited =>
      obtain ⟨separator, single⟩ := normalizing.single kind
      simp only [kind, single] at layout
      rw [← Except.ok.inj layout, String.toList_singleton]
      exact .delimited separator
    | «variable» =>
      obtain ⟨branching, -, chosen⟩ := made.variable kind
      rw [chosen]
      exact .branching branching
    | variableCustom => exact absurd kind normalizing.supplied

omit [MultibyteCodecs] in
theorem Normalizing.utf8 (normalizing : Normalizing settings)
    (made : Made settings custom conversion) : conversion.charset = .utf8 :=
  Except.ok.inj (made.charset.symm.trans normalizing.encoding)

/-- **The normal forms of the lines come back.** -/
theorem recovers_settled (normalizing : Normalizing settings)
    (made : Made settings custom conversion)
    (few : ∀ line ∈ conversion.body source,
      (conversion.rendering.extracted line).length < UInt64.size)
    {path : String} {blocks : List (List UInt8)}
    (produced : (Assembly.start (.new source conversion.charset conversion.terminator) (.ofPath path)
      .utf8 conversion.rendering).chunks = blocks.map .ok) :
    conversion.Recovers source blocks.flatten (conversion.settled source) := by
  apply recovers_of_writesBack normalizing.toOrderly made _ produced
  intro line inside
  cases layout : conversion.layout with
  | none =>
    have same : conversion.rendering.normal line = line := by
      rw [Rendering.normal, if_pos (by rw [show conversion.rendering.layout = none from layout]; rfl)]
    rw [same]
    exact (made.accords normalizing.apart _).writesBack_undivided layout line
  | some chosen =>
    have mirrors := made.mirrors (by rw [layout]; rfl) (conversion.header source)
    have faithful := made.faithful normalizing.escaping normalizing.unconverted
      (conversion.header source)
    have elements := normalizing.elements
    have numbered := normalizing.numbered
    have kept := normalizing.kept
    have kept' := normalizing.kept'
    rw [← made.same] at elements numbered kept kept'
    exact mirrors.writesBack (mirrors.line_gathered_normal rfl faithful.unconverted elements
      numbered (Rendering.leaves_eq_false kept kept') (few line inside))

/-! ### The second file -/

/-- The second file has a header and a body made of those of the first one. -/
theorem header_body_of_settled {again : Source}
    (same : conversion.lines again = conversion.settled source) :
    conversion.header again = (conversion.header source).map hyphensApart
      ∧ conversion.body again = (conversion.body source).map conversion.rendering.normal := by
  rw [header, body, same]
  exact take_map_append_map hyphensApart conversion.rendering.normal _ (conversion.lines source)

section Again

variable (normalizing : Normalizing settings) (made : Made settings custom conversion)
  (divides : ∀ line ∈ conversion.body source, Rendering.Divides conversion.layout line)

include normalizing made divides

/-- Nothing but spaces is added to the characters of a file. -/
theorem eq_space_or_mem_of_mem_settled {line : List Char}
    (inside : line ∈ conversion.settled source) {c : Char} (member : c ∈ line) :
    c = ' ' ∨ ∃ line' ∈ conversion.lines source, c ∈ line' := by
  rcases List.mem_append.mp inside with inside | inside
  · rcases List.mem_map.mp inside with ⟨line', header, rfl⟩
    rcases eq_space_or_mem_of_mem_hyphensApart member with space | before
    · exact .inl space
    · exact .inr ⟨line', List.mem_of_mem_take header, before⟩
  · rcases List.mem_map.mp inside with ⟨line', body, rfl⟩
    have regular := normalizing.regular made
    rcases Rendering.eq_space_or_mem_of_mem_normal regular (divides line' body) member with
      space | before
    · exact .inl space
    · exact .inr ⟨line', List.mem_of_mem_drop body, before⟩

/-- **The lines that come back are the lines of the file they make up.** -/
theorem lines_of_settled (unmarked : byteOrderMark ∉ Charset.utf8.decode source.bytes)
    {again : Source} (bytes : again.bytes = conversion.charset.encode
      ((conversion.settled source).flatMap fun line => line ++ [conversion.terminator.getD '\n'])) :
    conversion.lines again = conversion.settled source := by
  have utf8 := normalizing.utf8 made
  have usual : conversion.terminator = none := by
    have terminator := made.terminator
    rw [normalizing.terminator] at terminator
    exact (Except.ok.inj terminator).symm
  have before {c : Char} {line : List Char} (inside : line ∈ conversion.settled source)
      (member : c ∈ line) : c ≠ byteOrderMark ∧ Line.ends none c = false := by
    rcases eq_space_or_mem_of_mem_settled normalizing made divides inside member with
      rfl | ⟨line', among, member'⟩
    · decide
    · rw [lines, utf8, usual] at among
      obtain ⟨held, open_⟩ := Line.mem_of_mem_splitLines among member'
      exact ⟨fun mark => unmarked (mark ▸ held), open_⟩
  have quiet : ∀ line ∈ conversion.settled source, Line.Quiet none line := by
    intro line inside c member
    exact (before inside member).2
  rw [lines, bytes, utf8, usual, Charset.decode_encode_utf8, Decoder.dropMark_of_not_mem]
  · exact Line.splitLines_flatMap quiet
  · intro inside
    rcases List.mem_flatMap.mp inside with ⟨line, among, member⟩
    rcases List.mem_append.mp member with held | ended
    · exact (before among held).1 rfl
    · exact absurd (List.mem_singleton.mp ended) (by decide)

/-- **Lines that came back come back as they are.** -/
theorem settled_of_settled {again : Source}
    (same : conversion.lines again = conversion.settled source) :
    conversion.settled again = conversion.settled source := by
  obtain ⟨header, body⟩ := header_body_of_settled same
  have regular := normalizing.regular made
  rw [settled, header, body, List.map_map, List.map_map, settled]
  congr 1
  · apply List.map_congr_left
    intro line _
    exact hyphensApart_hyphensApart line
  · apply List.map_congr_left
    intro line inside
    exact Rendering.normal_normal regular (divides line inside)

end Again

/-- **A second round trip changes nothing.**  What comes back from a file that has a document is a
    file that has a document, and this gives back the same lines, however the bytes are served. -/
theorem settles_wrap (accepted : new? settings custom = .ok conversion)
    (normalizing : Normalizing settings)
    (unmarked : byteOrderMark ∉ Charset.utf8.decode source.bytes)
    (few : ∀ line ∈ conversion.body source,
      (conversion.rendering.extracted line).length < UInt64.size) (path path' : String) :
    ∃ assembly, conversion.wrap source path = .ok assembly
      ∧ ∀ blocks : List (List UInt8), assembly.drain.1.map Prod.fst = blocks.map .ok →
        conversion.Recovers source blocks.flatten (conversion.settled source)
          ∧ ∀ again : Source, again.failure? = none → again.bytes = conversion.charset.encode
              ((conversion.settled source).flatMap fun line =>
                line ++ [conversion.terminator.getD '\n']) →
            conversion.GivesBack again path' (conversion.settled source) := by
  have made := made_of_new? accepted
  refine ⟨_, made.wrap_eq normalizing.output source path, ?_⟩
  intro blocks produced
  refine ⟨recovers_settled normalizing made few produced, ?_⟩
  intro again served bytes
  -- Every line has been written, so every line could be divided, and its normal form can be.
  obtain ⟨after, elements, taken, written, -⟩ := Assembly.blocks_of_start produced
  have named := Rendering.afterLines_eq_named taken
  subst named
  have divides : ∀ line ∈ conversion.body source, Rendering.Divides conversion.layout line :=
    Rendering.divides_of_elements written
  have regular := normalizing.regular made
  have same := lines_of_settled normalizing made divides unmarked bytes
  obtain ⟨header, body⟩ := header_body_of_settled same
  have divides' : ∀ line ∈ conversion.body again, Rendering.Divides conversion.layout line := by
    rw [body]
    intro line inside
    rcases List.mem_map.mp inside with ⟨line', among, rfl⟩
    exact @Rendering.divides_normal conversion.rendering line' regular (divides line' among)
  have few' : ∀ line ∈ conversion.body again,
      (conversion.rendering.extracted line).length < UInt64.size := by
    rw [body]
    intro line inside
    rcases List.mem_map.mp inside with ⟨line', among, rfl⟩
    have fewer := @Rendering.length_extracted_normal conversion.rendering line' regular
      (divides line' among)
    exact Nat.lt_of_le_of_lt fewer (few line' among)
  have taken' : ∃ after', conversion.rendering.afterLines 0 (conversion.header again) =
      .ok after' := by
    rw [header]
    exact Rendering.exists_afterLines_map taken rfl rfl
      fun line => @Rendering.divides_hyphensApart conversion.rendering line regular
  obtain ⟨after', taken'⟩ := taken'
  obtain ⟨blocks', produced'⟩ := @Assembly.exists_blocks_of_afterLines _
    conversion.charset conversion.terminator again conversion.rendering after' served taken'
    divides' .utf8 (.ofPath path')
  have recovers := recovers_settled normalizing made few' produced'
  rw [settled_of_settled normalizing made divides same, Recovers, normalizing.utf8 made,
    Charset.Charwise.utf8.flatMap_encode] at recovers
  exact ⟨_, made.wrap_eq normalizing.output again path', blocks', produced', recovers⟩

end

/-- Lines of two kinds without the blanks around their values. -/
def strippedSettings : Settings :=
  { layout := some .variable, variableLayout := some kindsLayout, defaultStrip := true,
    headerLineCount := 1 }

def strippedSource : Source :=
  [.data (Charset.utf8.encode "h--x\nA   y<!\n B\" \n  xyz\n\n".toList)]

/-- Values that do not fill up their columns, a blank discriminator and a line cut short. -/
theorem settles_wrap_stripped :
    ∃ assembly, wrap ⟨strippedSettings, .utf8, none, some (.variable kindsLayout)⟩ strippedSource
        "f.txt" = .ok assembly
      ∧ ∃ blocks : List (List UInt8), assembly.drain.1.map Prod.fst = blocks.map .ok
        ∧ (recover ⟨strippedSettings, .utf8, none, some (.variable kindsLayout)⟩
          (.ofBytes blocks.flatten) {}).sink.accepted =
            Charset.utf8.encode "h- -x\nA  y <\nB \"\n  x\n\n".toList
        ∧ GivesBack ⟨strippedSettings, .utf8, none, some (.variable kindsLayout)⟩
          (.ofBytes (Charset.utf8.encode "h- -x\nA  y <\nB \"\n  x\n\n".toList)) "g.txt"
          ["h- -x".toList, "A  y <".toList, "B \"".toList, "  x".toList, []] := by
  have lines : Line.splitLines none (Charset.utf8.decode strippedSource.bytes) = ["h--x".toList,
      "A   y<!".toList, " B\" ".toList, "  xyz".toList, []] := rfl
  have body : Conversion.body ⟨strippedSettings, .utf8, none, some (.variable kindsLayout)⟩
      strippedSource = ["A   y<!".toList, " B\" ".toList, "  xyz".toList, []] := rfl
  have settled : settled ⟨strippedSettings, .utf8, none, some (.variable kindsLayout)⟩
      strippedSource = ["h- -x".toList, "A  y <".toList, "B \"".toList, "  x".toList, []] := by
    decide +kernel
  obtain ⟨assembly, made, again⟩ := @settles_wrap strippedSettings none
    ⟨strippedSettings, .utf8, none, some (.variable kindsLayout)⟩ strippedSource _ rfl
    ⟨⟨rfl, by decide, rfl, fun _ inside => absurd inside List.not_mem_nil⟩, rfl, rfl, rfl, rfl, rfl,
      rfl, nofun, nofun⟩
    (by decide +kernel) (by rw [body]; decide) "f.txt" "g.txt"
  refine ⟨assembly, made, ?_⟩
  cases made
  obtain ⟨blocks, produced⟩ := @Assembly.exists_blocks_of_divides _ .utf8 none strippedSource
    (rendering ⟨strippedSettings, .utf8, none, some (.variable kindsLayout)⟩) rfl (by
      rw [lines]
      intro line inside chosen same
      cases same
      simp only [List.mem_cons, List.not_mem_nil, or_false] at inside
      rcases inside with rfl | rfl | rfl | rfl | rfl <;> exact ⟨_, rfl⟩) .utf8 (.ofPath "f.txt")
  obtain ⟨recovers, settles⟩ := again blocks produced
  rw [settled] at recovers settles
  obtain ⟨-, accepted⟩ := recovers (.ofBytes blocks.flatten) (Source.failure?_ofBytes _)
    (Source.bytes_ofBytes _) {} ⟨nofun, rfl, rfl⟩
  refine ⟨blocks, produced, accepted.trans (by decide +kernel), ?_⟩
  exact settles _ (Source.failure?_ofBytes _) ((Source.bytes_ofBytes _).trans (by decide +kernel))

end Conversion

end FlatFile
