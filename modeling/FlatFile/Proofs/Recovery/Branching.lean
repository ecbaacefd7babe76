/-
  FlatFile/Proofs/Recovery/Branching.lean
  =======================================
  **Lines of a variable layout come back under the layout they were divided by.**

  The widths of a line are selected twice: by its discriminator when it is divided, and
  by a value recovered from the document when it is put together.  What is recovered is
  the first of the columns, each at its position (`recoveredValues_append`), so the two
  agree (`widthsFor_recoveredValues`): a discriminator that is lost was empty, and an
  empty one selects nothing.
-/
import FlatFile.Charset.AsciiOnly
import FlatFile.Proofs.Column.Branching
import FlatFile.Proofs.Recovery.RoundTrip

namespace FlatFile

namespace Rendering

/-- The values that are recovered from the document of a line, in the order of the columns. -/
def recoveredValues (rendering : Rendering) (line : List Char) : List (List Char) :=
  ((rendering.extracted line).sparing rendering.leaves 0).trimmed.map (·.getD [])

variable {rendering : Rendering} {layout : BranchingLayout} {line : List Char}

theorem extracted_variable (chosen : rendering.layout = some (.variable layout))
    (nonempty : line ≠ []) (divides : Divides rendering.layout line) :
    rendering.extracted line = (Columns.cut (some line) (layout.widthsOf line)).1
      ∧ (rendering.extracted line)[layout.discriminatorIndex.toNat]? =
        some (some (layout.discriminatorOf line)) := by
  obtain ⟨columns, divided⟩ := divides _ chosen
  rw [extracted_eq chosen divided]
  rw [ColumnLayout.columns, if_neg (by simpa using nonempty)] at divided
  cases cut : layout.columns line with
  | error failure =>
    simp only [cut] at divided
    cases divided
  | ok columns' =>
    simp only [cut] at divided
    cases divided
    exact BranchingLayout.columns_eq cut

/-- What is lost are columns without a value, behind all others. -/
theorem recoveredValues_append (rendering : Rendering) (line : List Char) :
    ∃ lost, rendering.recoveredValues line ++ List.replicate lost [] =
      (rendering.extracted line).map (·.getD []) :=
  Columns.recovered_append rendering.leaves (rendering.extracted line)

/-- **No value moves to another column.** -/
theorem recoveredValues_getElem? (rendering : Rendering) (line : List Char) (index : Nat) :
    ((rendering.recoveredValues line)[index]?).getD [] =
      ((rendering.extracted line)[index]?.join).getD [] := by
  obtain ⟨lost, values⟩ := rendering.recoveredValues_append line
  have column : ((rendering.extracted line)[index]?.join).getD [] =
      (((rendering.extracted line).map (·.getD []))[index]?).getD [] := by
    rw [List.getElem?_map]
    cases (rendering.extracted line)[index]? with
    | none => rfl
    | some column => rfl
  rw [column, ← values]
  by_cases kept : index < (rendering.recoveredValues line).length
  · rw [List.getElem?_append_left kept]
  · have beyond := Nat.le_of_not_lt kept
    rw [List.getElem?_eq_none beyond, List.getElem?_append_right beyond, List.getElem?_replicate]
    split
    · rfl
    · rfl

/-- **The recovered values select the widths that the line was cut by.** -/
theorem widthsFor_recoveredValues (chosen : rendering.layout = some (.variable layout))
    (nonempty : line ≠ []) (divides : Divides rendering.layout line) :
    layout.widthsFor (rendering.recoveredValues line) = layout.widthsOf line := by
  have value := rendering.recoveredValues_getElem? line layout.discriminatorIndex.toNat
  rw [(extracted_variable chosen nonempty divides).2, Option.join_some, Option.getD_some] at value
  unfold BranchingLayout.widthsFor BranchingLayout.widthsOf
  cases found : (rendering.recoveredValues line)[layout.discriminatorIndex.toNat]? with
  | some recovered =>
    rw [found, Option.getD_some] at value
    rw [← value]
  | none =>
    rw [found, Option.getD_none] at value
    rw [← value, BranchingLayout.trailing?_nil, Option.getD_none, List.append_nil]

/-- **A line of a variable layout comes back up to the last boundary** of the columns that it can
    have. -/
theorem restored_variable (chosen : rendering.layout = some (.variable layout))
    (divides : Divides rendering.layout line) :
    rendering.restored line =
      line.take (lastBoundary (layout.presentWidths line) line.length) := by
  by_cases empty : line = []
  · rw [empty, restored_nil, List.take_nil]
  · have same : rendering.restored line =
        composeFixed (layout.widthsFor (rendering.recoveredValues line))
          (rendering.recoveredValues line) := by
      rw [restored, chosen]
      rfl
    rw [same, widthsFor_recoveredValues chosen empty divides, recoveredValues,
      (extracted_variable chosen empty divides).1, Columns.compose_cut,
      BranchingLayout.reduceOption_widthsOf]

theorem length_extracted_variable (chosen : rendering.layout = some (.variable layout))
    (divides : Divides rendering.layout line) :
    (rendering.extracted line).length ≤ (layout.widthsOf line).length := by
  by_cases empty : line = []
  · rw [empty, extracted_nil]
    exact Nat.zero_le _
  · rw [(extracted_variable chosen empty divides).1, Columns.length_cut]

/-- **The columns of a line keep their widths and their places** on the way back. -/
structure KeepsColumns (rendering : Rendering) (layout : BranchingLayout) (line : List Char) :
    Prop where
  /-- The line is cut by the widths that its discriminator selects. -/
  divided : rendering.extracted line = (Columns.cut (some line) (layout.widthsOf line)).1
  /-- It is put together by the same widths. -/
  composed : layout.widthsFor (rendering.recoveredValues line) = layout.widthsOf line
  absent : ∀ index : Nat, (layout.widthsOf line)[index]? = some none →
    (rendering.extracted line)[index]? = some none
  /-- A column that is set is what stands behind the present ones before it. -/
  placed : ∀ (index : Nat) (value : List Char),
    (rendering.extracted line)[index]? = some (some value) →
      ∃ width, (layout.widthsOf line)[index]? = some (some width)
        ∧ value = (line.drop ((layout.widthsOf line).take index).reduceOption.sum).take width
  values : ∀ index : Nat, ((rendering.recoveredValues line)[index]?).getD [] =
    ((rendering.extracted line)[index]?.join).getD []

theorem keepsColumns (chosen : rendering.layout = some (.variable layout)) (nonempty : line ≠ [])
    (divides : Divides rendering.layout line) : rendering.KeepsColumns layout line := by
  have divided := (extracted_variable chosen nonempty divides).1
  refine ⟨divided, widthsFor_recoveredValues chosen nonempty divides, ?_, ?_,
    rendering.recoveredValues_getElem? line⟩
  · intro index absent
    rw [divided]
    exact Columns.eq_none_of_absent absent
  · intro index value set
    rw [divided] at set
    exact Columns.eq_of_cut_getElem? set

end Rendering

namespace Conversion

variable {settings : Settings} {custom : Option LineSplitter} {conversion : Conversion}
  {source : Source}

theorem Made.variable (made : Made settings custom conversion)
    (selected : settings.layout = some .variable) :
    ∃ layout, settings.variableLayout = some layout
      ∧ conversion.layout = some (.variable layout) := by
  have layout := made.layout
  simp only [Settings.columnLayout, selected] at layout
  cases given : settings.variableLayout with
  | none =>
    rw [given] at layout
    cases layout
  | some chosen =>
    rw [given] at layout
    exact ⟨chosen, rfl, (Except.ok.inj layout).symm⟩

section

variable [MultibyteCodecs]

/-- **Files of a variable layout come back**, whenever they have a document: each line up to the
    last boundary of the columns that its discriminator selects, which select themselves again. -/
theorem recovers_variable (accepted : new? settings custom = .ok conversion)
    (reversible : Reversible settings conversion source)
    (selected : settings.layout = some .variable)
    (few : ∀ layout, settings.variableLayout = some layout → ∀ line ∈ conversion.body source,
      (layout.widthsOf line).length < UInt64.size) (path : String) :
    ∃ layout assembly, settings.variableLayout = some layout
      ∧ conversion.wrap source path = .ok assembly
      ∧ ∀ blocks : List (List UInt8), assembly.drain.1.map Prod.fst = blocks.map .ok →
        conversion.Recovers source blocks.flatten ((conversion.header source).map hyphensApart
            ++ (conversion.body source).map fun line =>
              line.take (lastBoundary (layout.presentWidths line) line.length))
          ∧ ∀ line ∈ conversion.body source, line ≠ [] →
            (conversion.rendering.named (conversion.header source)).KeepsColumns layout line := by
  have made := made_of_new? accepted
  obtain ⟨layout, given, chosen⟩ := made.variable selected
  refine ⟨layout, _, given, made.wrap_eq reversible.output source path, ?_⟩
  intro blocks produced
  -- Every line has been written, so every line could be divided.
  obtain ⟨after, elements, taken, written, -⟩ := Assembly.blocks_of_start produced
  have named := Rendering.afterLines_eq_named taken
  subst named
  have divides : ∀ line ∈ conversion.body source, Rendering.Divides
      (conversion.rendering.named (conversion.header source)).layout line :=
    Rendering.divides_of_elements written
  constructor
  · have recovers := recovers_of_reversible reversible made (by rw [chosen]; rfl)
      (fun line inside => Nat.lt_of_le_of_lt
        (Rendering.length_extracted_variable chosen (divides line inside))
        (few layout given line inside)) produced
    have same := List.map_congr_left fun line inside =>
      Rendering.restored_variable chosen (divides line inside)
    rwa [same] at recovers
  · intro line inside nonempty
    exact Rendering.keepsColumns chosen nonempty (divides line inside)

end

/-- Lines of two kinds, one of them with an absent and an empty column between others. -/
def kindsLayout : BranchingLayout :=
  ⟨0, [2, 1], ⟨[("A", [2, -1, 0, 1]), ("BB", [])], by decide⟩⟩

def kindsSettings : Settings :=
  { layout := some .variable, variableLayout := some kindsLayout, skipAnyEmptyColumn := true,
    headerLineCount := 1 }

def kindsSource : Source :=
  [.data (Charset.utf8.encode "h--x\nA xyz<!\nBB\" \nCCxy\n  xyz\nA \n\n".toList)]

/-- A header line, and lines of both kinds, of another kind, with a blank discriminator, of the
    discriminator alone, and without any text. -/
theorem recovers_variable_kinds :
    ∃ assembly, wrap ⟨kindsSettings, .utf8, none, some (.variable kindsLayout)⟩ kindsSource
        "f.txt" = .ok assembly
      ∧ ∃ blocks : List (List UInt8), assembly.drain.1.map Prod.fst = blocks.map .ok
        ∧ (recover ⟨kindsSettings, .utf8, none, some (.variable kindsLayout)⟩
          (.ofBytes blocks.flatten) {}).result = .ok 7
        ∧ (recover ⟨kindsSettings, .utf8, none, some (.variable kindsLayout)⟩
          (.ofBytes blocks.flatten) {}).sink.accepted =
            Charset.utf8.encode "h- -x\nA xyz<\nBB\"\nCCx\n  x\nA \n\n".toList := by
  have lines : Line.splitLines none (Charset.utf8.decode kindsSource.bytes) = ["h--x".toList,
      "A xyz<!".toList, "BB\" ".toList, "CCxy".toList, "  xyz".toList, "A ".toList, []] := rfl
  have body : Conversion.body ⟨kindsSettings, .utf8, none, some (.variable kindsLayout)⟩
      kindsSource = ["A xyz<!".toList, "BB\" ".toList, "CCxy".toList, "  xyz".toList, "A ".toList,
        []] := rfl
  obtain ⟨layout, assembly, given, made, recovered⟩ := @recovers_variable kindsSettings none
    ⟨kindsSettings, .utf8, none, some (.variable kindsLayout)⟩ kindsSource _ rfl
    ⟨rfl, rfl, by decide, rfl, rfl, fun _ inside => absurd inside List.not_mem_nil, .inl ⟨rfl, rfl⟩⟩
    rfl (by rintro layout ⟨⟩; rw [body]; decide) "f.txt"
  refine ⟨assembly, made, ?_⟩
  cases given
  cases made
  obtain ⟨blocks, produced⟩ := @Assembly.exists_blocks_of_divides _ .utf8 none kindsSource
    (rendering ⟨kindsSettings, .utf8, none, some (.variable kindsLayout)⟩) rfl (by
      rw [lines]
      intro line inside chosen same
      cases same
      simp only [List.mem_cons, List.not_mem_nil, or_false] at inside
      rcases inside with rfl | rfl | rfl | rfl | rfl | rfl | rfl <;> exact ⟨_, rfl⟩) .utf8 (.ofPath "f.txt")
  obtain ⟨result, accepted⟩ := (recovered blocks produced).1 (.ofBytes blocks.flatten)
    (Source.failure?_ofBytes _) (Source.bytes_ofBytes _) {} ⟨nofun, rfl, rfl⟩
  exact ⟨blocks, produced, result.trans rfl, accepted.trans (by decide +kernel)⟩

end Conversion

end FlatFile
