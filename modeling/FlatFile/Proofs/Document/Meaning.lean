/-
  FlatFile/Proofs/Document/Meaning.lean
  =====================================
  **A document says what its lines say, and nothing else.**

  The names that a header gives, and those made up for columns without one, are names;
  so the trees of a document are tidy (`tidy_documentNodes`), and the chunks of a
  document are their text (`texts_flatten`).
-/
import FlatFile.Proofs.Charset.Utf8
import FlatFile.Proofs.Document.Tree

namespace FlatFile

open Markup

namespace Rendering

variable {rendering after : Rendering}

/-! ### The names of the columns -/

theorem namesFrom_eq {line : List Char} {names : List (Option (List Char))}
    (h : rendering.namesFrom line = .ok names) : names = rendering.namesOf (some line) := by
  unfold namesFrom at h
  cases layout : rendering.layout with
  | none =>
    simp only [layout, Except.ok.injEq] at h
    rw [namesOf, layout, Option.isNone_none, if_pos rfl, h]
  | some chosen =>
    cases divided : chosen.columns line with
    | error failure =>
      simp only [layout, divided] at h
      cases h
    | ok columns =>
      simp only [layout, divided, Except.ok.injEq] at h
      rw [namesOf, extracted_eq layout divided, layout, Option.isNone_some,
        if_neg Bool.false_ne_true, h]

theorem afterLines_of_passed (rendering : Rendering) (before : Nat) (lines : List (List Char))
    (passed : ∀ number, rendering.style.namesLine = some number → number ≤ before) :
    rendering.afterLines before lines = .ok rendering := by
  induction lines generalizing before with
  | nil => rfl
  | cons line lines ih =>
    have other : rendering.style.namesLine ≠ some (before + 1) := by
      intro same
      have := passed _ same
      omega
    rw [afterLines, afterHeader, if_neg other]
    exact ih _ fun number same => Nat.le_succ_of_le (passed number same)

theorem afterLines_eq {before : Nat} {lines : List (List Char)}
    (h : rendering.afterLines before lines = .ok after) :
    after = { rendering with
      columnNames := rendering.namesOf (rendering.style.namesLine.bind fun number =>
        if number ≤ before then none else lines[number - before - 1]?) } := by
  induction lines generalizing before with
  | nil =>
    cases h
    cases rendering.style.namesLine with
    | none => rfl
    | some number => simp [namesOf]
  | cons line lines ih =>
    rw [afterLines] at h
    obtain ⟨next, first, h⟩ := Assembly.bind_eq_ok h
    by_cases here : rendering.style.namesLine = some (before + 1)
    · rw [afterHeader, if_pos here] at first
      cases names : rendering.namesFrom line with
      | error failure =>
        rw [names] at first
        cases first
      | ok columnNames =>
        rw [names] at first
        cases first
        have passed := afterLines_of_passed { rendering with columnNames } (before + 1) lines
          fun number same => by
            rw [here] at same
            cases same
            exact Nat.le_refl _
        rw [passed] at h
        cases h
        have found : (rendering.style.namesLine.bind fun number =>
            if number ≤ before then none else (line :: lines)[number - before - 1]?) =
            some line := by
          rw [here, Option.bind_some, if_neg (by omega)]
          have first : before + 1 - before - 1 = 0 := by omega
          rw [first, List.getElem?_cons_zero]
        rw [found, namesFrom_eq names]
    · rw [afterHeader, if_neg here] at first
      cases first
      rw [ih h]
      cases given : rendering.style.namesLine with
      | none => rfl
      | some number =>
        rw [given] at here
        have other : number ≠ before + 1 := fun same => here (by rw [same])
        simp only [Option.bind_some]
        by_cases passed : number ≤ before
        · rw [if_pos (by omega), if_pos passed]
        · rw [if_neg (by omega), if_neg passed]
          have shift : number - before - 1 = number - (before + 1) - 1 + 1 := by omega
          rw [shift, List.getElem?_cons_succ]

/-- **The names after the header** are those of the line that gives them. -/
theorem afterLines_eq_named {header : List (List Char)}
    (h : rendering.afterLines 0 header = .ok after) : after = rendering.named header := by
  rw [afterLines_eq h, named]
  congr 2
  cases rendering.style.namesLine with
  | none => rfl
  | some number => simp

/-- Every name of a column is a name. -/
def ProperNames (rendering : Rendering) : Prop :=
  ∀ name, some name ∈ rendering.columnNames → isName name = true

theorem properNames_initial (style : DocumentStyle) (layout : Option ColumnLayout)
    (converters : ColumnConverters) :
    (Assembly.initialRendering style layout converters).ProperNames := by
  intro name inside
  rcases List.mem_map.mp inside with ⟨text, -, made⟩
  exact isName_nameOf? made

theorem ProperNames.namesOf (proper : rendering.ProperNames) (line : Option (List Char))
    {name : List Char} (inside : some name ∈ rendering.namesOf line) : isName name = true := by
  cases line with
  | none => exact proper name inside
  | some line =>
    rw [Rendering.namesOf] at inside
    split at inside
    · exact proper name inside
    · rcases List.mem_map.mp inside with ⟨column, -, made⟩
      rcases Option.bind_eq_some_iff.mp made with ⟨text, -, made⟩
      exact isName_nameOf? made

theorem ProperNames.named (proper : rendering.ProperNames) (header : List (List Char)) :
    (rendering.named header).ProperNames :=
  fun _ inside => proper.namesOf _ inside

theorem ProperNames.afterHeader (proper : rendering.ProperNames) {number : Nat} {line : List Char}
    (h : rendering.afterHeader number line = .ok after) : after.ProperNames := by
  unfold Rendering.afterHeader at h
  split at h
  · cases names : rendering.namesFrom line with
    | error failure =>
      rw [names] at h
      cases h
    | ok columnNames =>
      rw [names] at h
      cases h
      intro name inside
      have inside : some name ∈ columnNames := inside
      rw [namesFrom_eq names] at inside
      exact proper.namesOf _ inside
  · cases h
    exact proper

/-! ### Tidy documents -/

theorem lineFacts_keys (rendering : Rendering) (number : Nat) (line : List Char) :
    (rendering.lineFacts number line).map Prod.fst = rendering.style.reservedNames := by
  unfold lineFacts DocumentStyle.reservedNames
  rw [List.map_append]
  congr 1
  · split <;> rfl
  · split <;> rfl

theorem reservedNames_proper (style : DocumentStyle) :
    style.reservedNames.Nodup ∧ ∀ key ∈ style.reservedNames, isName key = true := by
  unfold DocumentStyle.reservedNames
  cases style.lineNumbers with
  | false =>
    cases style.rawLine with
    | false => decide
    | true => decide
  | true =>
    cases style.rawLine with
    | false => decide
    | true => decide

theorem shownColumn?_name (proper : rendering.ProperNames)
    (column' : isName rendering.style.columnName.toList = true) {index : Nat}
    {column : Option (List Char)} {shown : WrittenColumn}
    (h : rendering.shownColumn? index column = some shown) : isName shown.name = true := by
  obtain ⟨text, -, rfl⟩ := shownColumn?_eq_some h
  dsimp only
  cases own : rendering.columnNames[index]?.join with
  | none =>
    rw [Option.getD_none, fallbackName]
    split
    · exact DocumentStyle.isName_numberedName column' (index + 1)
    · exact column'
  | some name =>
    rw [Option.join_eq_some_iff] at own
    exact proper name (List.mem_of_getElem? own)

/-- The columns that a document shows of a line, each under the name it has at first. -/
def listed (rendering : Rendering) (columns : Columns) : List WrittenColumn :=
  columns.zipIdx.filterMap fun (column, index) => rendering.shownColumn? index column

theorem listed_names (proper : rendering.ProperNames)
    (column' : isName rendering.style.columnName.toList = true) (columns : Columns) :
    ∀ column ∈ rendering.listed columns, isName column.name = true := by
  intro column inside
  rcases List.mem_filterMap.mp inside with ⟨⟨text, index⟩, -, shown⟩
  exact shownColumn?_name proper column' shown

theorem shownColumns_names (proper : rendering.ProperNames)
    (column' : isName rendering.style.columnName.toList = true) (columns : Columns) :
    ∀ column ∈ rendering.shownColumns columns, isName column.name = true := by
  have all := listed_names proper column' columns
  unfold shownColumns
  split
  · exact (DocumentStyle.renames_distinctNames _ (NameSet.holds_ofList _) _).isName column' all
  · exact all

/-- As attributes the columns of a line come under different names, none of them reserved. -/
theorem shownColumns_distinct (rendering : Rendering)
    (attributes : rendering.style.attributes = true) (columns : Columns) :
    ((rendering.shownColumns columns).map WrittenColumn.name).Nodup
      ∧ ∀ column ∈ rendering.shownColumns columns, column.name ∉ rendering.style.reservedNames := by
  unfold shownColumns
  rw [if_pos attributes]
  exact (DocumentStyle.renames_distinctNames _ (NameSet.holds_ofList _) _).nodup

theorem solid_columnNode {column : WrittenColumn} (named : isName column.name = true) :
    Solid (rendering.columnNode column) := by
  have keys : ((if rendering.style.columnNumbers then [numberPair column.number] else []).map
      Prod.fst) = if rendering.style.columnNumbers then ["number".toList] else [] := by
    split <;> rfl
  refine solid_element named ?_ ?_ (tidy_textNodes _)
  · rw [keys]
    split
    · decide
    · decide
  · rw [keys]
    split
    · decide
    · decide

theorem lineFacts_proper (rendering : Rendering) (number : Nat) (line : List Char) :
    ((rendering.lineFacts number line).map Prod.fst).Nodup
      ∧ ∀ key ∈ (rendering.lineFacts number line).map Prod.fst, isName key = true := by
  rw [lineFacts_keys]
  exact reservedNames_proper rendering.style

theorem lineAttributes_proper (proper : rendering.ProperNames)
    (column' : isName rendering.style.columnName.toList = true)
    (attributes : rendering.style.attributes = true) (number : Nat) (line : List Char)
    (columns : Columns) :
    ((rendering.lineFacts number line ++ (rendering.shownColumns columns).map fun column =>
        (column.name, column.value)).map Prod.fst).Nodup
      ∧ ∀ key ∈ (rendering.lineFacts number line ++
        (rendering.shownColumns columns).map fun column => (column.name, column.value)).map Prod.fst,
        isName key = true := by
  obtain ⟨different, free⟩ := rendering.shownColumns_distinct attributes columns
  obtain ⟨distinct, keys⟩ := lineFacts_proper rendering number line
  have names : ((rendering.shownColumns columns).map fun column =>
      (column.name, column.value)).map Prod.fst =
      (rendering.shownColumns columns).map WrittenColumn.name := by
    rw [List.map_map]
    rfl
  rw [List.map_append, names]
  constructor
  · rw [List.nodup_append]
    refine ⟨distinct, different, ?_⟩
    rw [lineFacts_keys]
    rintro key inside other inside' rfl
    rcases List.mem_map.mp inside' with ⟨column, member, rfl⟩
    exact free column member inside
  · intro key inside
    rcases List.mem_append.mp inside with inside | inside
    · exact keys key inside
    · rcases List.mem_map.mp inside with ⟨column, member, rfl⟩
      exact shownColumns_names proper column' columns column member

theorem solid_lineNode (proper : rendering.ProperNames)
    (line' : isName rendering.style.lineName.toList = true)
    (column' : isName rendering.style.columnName.toList = true) (number : Nat) (line : List Char) :
    Solid (rendering.lineNode number line) := by
  obtain ⟨distinct, keys⟩ := lineFacts_proper rendering number line
  have columns := shownColumns_names proper column' (rendering.extracted line)
  unfold lineNode
  dsimp only
  split
  · exact solid_element line' keys distinct (tidy_textNodes line)
  split
  · rename_i attributes
    obtain ⟨distinct, keys⟩ := lineAttributes_proper proper column' attributes number line
      (rendering.extracted line)
    exact solid_element line' keys distinct .nil
  split
  · exact solid_element line' keys distinct .nil
  · refine solid_element line' keys distinct (tidy_laidOut 1 fun part inside => ?_)
    rcases List.mem_map.mp inside with ⟨column, member, rfl⟩
    exact solid_columnNode (columns column member)

theorem rootFacts_names (rendering : Rendering) (origin : Origin) :
    (rendering.rootFacts origin).map Prod.fst = ["name".toList, "location".toList]
      ++ if rendering.style.xmlNamespace.isSome then ["xmlns".toList] else [] := by
  unfold rootFacts
  cases rendering.style.xmlNamespace with
  | none => rfl
  | some uri => rfl

theorem rootFacts_keys (rendering : Rendering) (origin : Origin) :
    ((rendering.rootFacts origin).map Prod.fst).Nodup
      ∧ ∀ key ∈ (rendering.rootFacts origin).map Prod.fst, isName key = true := by
  rw [rootFacts_names]
  split
  · decide
  · decide

theorem tidy_rootContent (proper : rendering.ProperNames)
    (accepts : Assembly.Accepts rendering.style rendering.layout) (header body : List (List Char)) :
    Tidy (laidOut 0 ((header.map fun line => .comment (commentBody line))
      ++ rendering.lineNodes 0 body)) := by
  apply tidy_laidOut
  intro part inside
  rcases List.mem_append.mp inside with inside | inside
  · rcases List.mem_map.mp inside with ⟨line, -, rfl⟩
    exact solid_comment line
  · rcases List.mem_map.mp inside with ⟨⟨line, number⟩, -, rfl⟩
    exact solid_lineNode proper accepts.line accepts.column number line

/-- **The trees of a document are tidy.** -/
theorem tidy_documentNodes (proper : rendering.ProperNames)
    (accepts : Assembly.Accepts rendering.style rendering.layout) (origin : Origin)
    (header body : List (List Char)) : Tidy (rendering.documentNodes origin header body) := by
  have root : Solid (rendering.rootNode origin header body) := by
    obtain ⟨distinct, keys⟩ := rootFacts_keys rendering origin
    exact solid_element accepts.root keys distinct (tidy_rootContent proper accepts header body)
  unfold documentNodes
  split
  · refine .text (by simp) ?_ (root.tidy [] .nil)
    intro other more same
    exact root.markup other (List.cons.inj same).1
  · exact root.tidy [] .nil

/-! ### The text of a document -/

/-- The text of a document: the declaration, if there is one, and the text of the trees. -/
def documentText (rendering : Rendering) (origin : Origin) (charset : Charset)
    (header body : List (List Char)) : List Char :=
  (if rendering.style.declaration then declaration charset.name else [])
    ++ render (rendering.documentNodes origin header body)

/-- **The texts of the chunks make up the text of the document.** -/
theorem texts_flatten (faithful : rendering.Faithful) {origin : Origin} {charset : Charset}
    {header body elements : List (List Char)} (h : rendering.elements 0 body = .ok elements) :
    (rendering.texts origin charset header elements).flatten =
      rendering.documentText origin charset header body := by
  have root := rootNode_render rendering origin header body
  rw [elements_eq_render faithful h, documentText, documentNodes, texts, prologue_eq, render_append]
  simp only [rootFacts] at root ⊢
  split
  · simp [render, Node.render, root, escape, escapeChar]
  · simp [render, root]

end Rendering

end FlatFile
