/-
  FlatFile/Proofs/Recovery/Positions.lean
  =======================================
  **Every column of a document is found at the position it was taken from.**

  A column in an element of its own tells its position by its number
  (`positionOfTag?_number`), whatever its name is.  As an attribute it tells it by its
  name, if that is the name of columns with a number: such a name is never taken for
  another attribute of the line, and it never gives way to one (`shownColumns_eq`).
-/
import FlatFile.Proofs.Document.Meaning
import FlatFile.Proofs.Recovery.Columns

namespace FlatFile

open Markup

/-! ### Numbers in a document -/

theorem Text.after?_append (piece text : List Char) :
    Text.after? piece (piece ++ text) = some text := by
  induction piece with
  | nil => rfl
  | cons c piece ih => rw [List.cons_append, Text.after?, if_pos rfl, ih]

theorem Markup.escape_decimal (n : Nat) : escape (Text.decimal n) = Text.decimal n := by
  have digits : ∀ c ∈ Text.decimal n, c.isDigit = true := fun _ => Text.isDigit_of_mem_decimal
  generalize Text.decimal n = text at digits ⊢
  induction text with
  | nil => rfl
  | cons c text ih =>
    rcases List.forall_mem_cons.mp digits with ⟨digit, others⟩
    have other (d : Char) (no : d.isDigit = false) : c ≠ d := by
      rintro rfl
      rw [digit] at no
      cases no
    have plain : escapeChar c = [c] := by
      rw [escapeChar, if_neg (other '<' (by decide)), if_neg (other '>' (by decide)),
        if_neg (other '&' (by decide)), if_neg (other '\'' (by decide)),
        if_neg (other '"' (by decide))]
    rw [escape, List.flatMap_cons, plain, ← escape, ih others, List.singleton_append]

namespace Recovery

variable {recovery : Recovery} {number : Nat}

theorem positionOfNumber?_decimal {index : Nat} (few : index + 1 < UInt64.size) :
    positionOfNumber? (Text.decimal (index + 1)) = some (UInt64.ofNat index) := by
  rw [positionOfNumber?, Text.word?_decimal few]

/-- **A number tells the position of its column element.** -/
theorem positionOfTag?_number (recovery : Recovery) (name : List Char) {index : Nat}
    (few : index + 1 < UInt64.size) :
    recovery.positionOfTag? (writtenTag name [Rendering.numberPair (index + 1)]) =
      some (UInt64.ofNat index) := by
  have attributes : (writtenTag name [Rendering.numberPair (index + 1)]).attributes =
      [("number".toList, Text.decimal (index + 1))] := by
    have keys : [Rendering.numberPair (index + 1)].map Prod.fst = ["number".toList] := rfl
    rw [attributes_writtenTag (by rw [keys]; decide) (by rw [keys]; decide), List.map_singleton]
    exact congrArg (fun value => [("number".toList, value)]) (escape_decimal (index + 1))
  rw [positionOfTag?, attributes]
  generalize "number".toList = key
  simp only [List.filterMap_cons, List.filterMap_nil, if_true, Text.trim_decimal,
    positionOfNumber?_decimal few]

/-- **A numbered name tells the position of its column**, unless columns are configured under
    names of their own. -/
theorem positionOfName?_numberedName (unnamed : ∀ name ∈ recovery.columnNames, name = none)
    {index : Nat} (few : index + 1 < UInt64.size) :
    recovery.positionOfName? (recovery.style.numberedName (index + 1)) =
      some (UInt64.ofNat index) := by
  have other : recovery.columnNames.idxOf? (some (recovery.style.numberedName (index + 1))) =
      none := by
    rw [List.idxOf?_eq_none_iff]
    intro inside
    exact absurd (unnamed _ inside) (by simp)
  rw [positionOfName?, other, DocumentStyle.numberedName, Text.after?_append, Option.bind_some,
    positionOfNumber?_decimal few]

end Recovery

/-! ### Numbered names -/

namespace DocumentStyle

variable {style : DocumentStyle}

/-- A name that goes on without the last letter of `xmlns` declares a namespace only if its
    beginning does. -/
theorem declaresNamespace_append (name : List Char) {more : List Char} (without : 's' ∉ more) :
    declaresNamespace (name ++ more) = declaresNamespace name := by
  rw [Bool.eq_iff_iff, declaresNamespace, declaresNamespace, Text.startsWith, Text.startsWith,
    List.isPrefixOf_iff_prefix, List.isPrefixOf_iff_prefix]
  constructor
  · intro declares
    rcases List.prefix_or_prefix_of_prefix declares (List.prefix_append _ _) with short | long
    · exact short
    · -- The name ends inside of `xmlns`, so the last letter of that stands behind it.
      rcases long with ⟨rest, eq⟩
      rw [← eq, List.prefix_append_right_inj] at declares
      cases rest using List.reverseRecOn with
      | nil => exact ⟨[], by rw [← eq]; simp⟩
      | append_singleton rest last =>
        rw [← List.append_assoc] at eq
        have letter := List.singleton_inj.mp
          (List.append_inj_right' (eq.trans (show _ = "xmln".toList ++ ['s'] from rfl)) rfl)
        exact absurd (declares.subset (by simp [letter])) without
  · exact fun short => short.trans (List.prefix_append _ _)

theorem s_not_mem_decimal (number : Nat) : 's' ∉ Text.decimal number := fun inside =>
  absurd (Text.isDigit_of_mem_decimal inside) (by decide)

theorem declaresNamespace_numberedName (plain : declaresNamespace style.columnName.toList = false)
    (number : Nat) : declaresNamespace (style.numberedName number) = false := by
  rw [numberedName, declaresNamespace_append _ (s_not_mem_decimal number), plain]

theorem eq_of_mem_reservedNames {key : List Char} (inside : key ∈ style.reservedNames) :
    key = "number".toList ∨ key = "raw".toList := by
  unfold reservedNames at inside
  rcases List.mem_append.mp inside with inside | inside
  · split at inside
    · exact .inl (List.mem_singleton.mp inside)
    · cases inside
  · split at inside
    · exact .inr (List.mem_singleton.mp inside)
    · cases inside

theorem isReserved_of_mem {key : List Char} (inside : key ∈ style.reservedNames) :
    Recovery.isReserved key = true := by
  rcases eq_of_mem_reservedNames inside with rfl | rfl
  · decide
  · decide

/-- **A numbered name is never taken for another attribute of a line.** -/
theorem isReserved_numberedName (plain : declaresNamespace style.columnName.toList = false)
    (number : Nat) : Recovery.isReserved (style.numberedName number) = false := by
  have number' := numberedName_ne style number (show 'r'.isDigit = false by decide) "numbe".toList
  have raw := numberedName_ne style number (show 'w'.isDigit = false by decide) "ra".toList
  simp only [Recovery.isReserved, Bool.or_eq_false_iff, beq_eq_false_iff_ne]
  exact ⟨⟨number', raw⟩, declaresNamespace_numberedName plain number⟩

theorem distinctNames_eq_self (plain : declaresNamespace style.columnName.toList = false)
    {taken : NameSet} {names : List (List Char)} (holds : taken.Holds names)
    {columns : List WrittenColumn}
    (numbered : ∀ column ∈ columns, column.name = style.numberedName column.number)
    (free : ∀ column ∈ columns, column.name ∉ names)
    (distinct : (columns.map WrittenColumn.number).Nodup) :
    style.distinctNames taken columns = columns := by
  induction columns generalizing taken names with
  | nil => rfl
  | cons column columns ih =>
    rw [List.map_cons, List.nodup_cons] at distinct
    rcases List.forall_mem_cons.mp numbered with ⟨numbered, numbered'⟩
    rcases List.forall_mem_cons.mp free with ⟨free, free'⟩
    have unused : taken.contains column.name = false := by
      rw [← Bool.not_eq_true, holds.contains_iff]
      exact free
    have own : style.attributeName taken column = column.name := by
      rw [attributeName, unused, numbered, declaresNamespace_numberedName plain]
      rfl
    rw [distinctNames, own]
    refine congrArg (column :: ·) (ih (holds.insert column.name) numbered' ?_ distinct.2)
    intro other inside again
    rcases List.mem_cons.mp again with same | before
    · rw [numbered' other inside, numbered] at same
      have number := Text.decimal_injective (List.append_cancel_left same)
      exact distinct.1 (List.mem_map.mpr ⟨other, inside, number⟩)
    · exact free' other inside before

end DocumentStyle

/-! ### The columns shown -/

namespace Rendering

variable {rendering : Rendering}

/-- An empty column at this position is left out. -/
def leaves (rendering : Rendering) (index : Nat) : Bool :=
  rendering.style.skipEmpty
    || (rendering.style.skipEmptyUnnamed && rendering.columnNames[index]?.join.isNone)

/-- The position of a column and its value. -/
def cell (column : WrittenColumn) : Nat × List Char := (column.number - 1, column.value)

theorem shownColumn?_eq (rendering : Rendering) (index : Nat) (column : Option (List Char)) :
    rendering.shownColumn? index column =
      (if column.map rendering.shownValue = some [] ∧ rendering.leaves index then none
        else column.map rendering.shownValue).map fun text =>
        ⟨index + 1, rendering.columnNames[index]?.join.getD (rendering.fallbackName index),
          text⟩ := by
  unfold shownColumn? leaves
  cases column with
  | none => rfl
  | some text =>
    simp only [Option.map_some, Option.bind_some, Option.some.injEq, Bool.or_eq_true,
      Bool.and_eq_true, Option.isNone_iff_eq_none]
    split
    · rfl
    · rfl

/-- **The cells of the columns listed** are those of the columns that are not left out, with their
    values as they are shown. -/
theorem map_cell_listed (rendering : Rendering) (columns : Columns) :
    (rendering.listed columns).map cell =
      (Columns.sparing rendering.leaves 0 (columns.map (Option.map rendering.shownValue))).cells := by
  unfold listed Columns.cells
  generalize 0 = index
  induction columns generalizing index with
  | nil => rfl
  | cons column columns ih =>
    have here := shownColumn?_eq rendering index column
    have rest := ih (index + 1)
    rw [List.map_cons, Columns.sparing, List.zipIdx_cons, List.filterMap_cons, List.zipIdx_cons,
      List.map_cons, List.zipIdx_cons, List.filterMap_cons, ← Columns.sparing]
    simp only [here]
    generalize (if column.map rendering.shownValue = some [] ∧ rendering.leaves index then none
      else column.map rendering.shownValue) = kept
    cases kept with
    | none => exact rest
    | some text =>
      rw [Option.map_some, Option.map_some, List.map_cons, rest]
      rfl

theorem map_cell_listed_unstripped (unstripped : rendering.converters.strip = false)
    (columns : Columns) :
    (rendering.listed columns).map cell = (columns.sparing rendering.leaves 0).cells := by
  have same : (Option.map rendering.shownValue : Option (List Char) → _) = id := by
    funext column
    cases column with
    | none => rfl
    | some text => simp [shownValue, unstripped]
  rw [map_cell_listed, same, List.map_id]

theorem eq_of_mem_listed {columns : Columns} {column : WrittenColumn}
    (inside : column ∈ rendering.listed columns) :
    ∃ index < columns.length, column.number = index + 1
      ∧ column.name = rendering.columnNames[index]?.join.getD (rendering.fallbackName index) := by
  rcases List.mem_filterMap.mp inside with ⟨⟨text, index⟩, member, shown⟩
  obtain ⟨text, -, rfl⟩ := shownColumn?_eq_some shown
  have below := (List.mem_zipIdx member).2.1
  exact ⟨index, by omega, rfl, rfl⟩

theorem nodup_listed (rendering : Rendering) (columns : Columns) :
    ((rendering.listed columns).map WrittenColumn.number).Nodup := by
  have positions : (columns.zipIdx.map Prod.snd).Nodup := by
    rw [List.zipIdx_map_snd]
    exact List.nodup_range'
  rw [List.Nodup, List.pairwise_map] at positions ⊢
  rw [listed, List.pairwise_filterMap]
  apply positions.imp
  intro slot slot' apart column shown column' shown' same
  obtain ⟨text, -, rfl⟩ := shownColumn?_eq_some shown
  obtain ⟨text', -, rfl⟩ := shownColumn?_eq_some shown'
  exact apart (Nat.succ.inj same)

end Rendering

/-- **A document tells the positions of the columns**: in elements they have their numbers; as
    attributes they all have numbered names, none of which declares a namespace. -/
inductive Recovery.Locates (recovery : Recovery) (rendering : Rendering) : Prop where
  | elements (inside : rendering.style.attributes = false)
      (numbered : rendering.style.columnNumbers = true)
  | attributes (inside : rendering.style.attributes = true)
      (configured : ∀ name ∈ recovery.columnNames, name = none)
      (given : ∀ name ∈ rendering.columnNames, name = none)
      (plain : declaresNamespace rendering.style.columnName.toList = false)

namespace Rendering

variable {rendering : Rendering}

theorem name_of_mem_listed (inside : rendering.style.attributes = true)
    (given : ∀ name ∈ rendering.columnNames, name = none) {columns : Columns}
    {column : WrittenColumn} (member : column ∈ rendering.listed columns) :
    column.name = rendering.style.numberedName column.number := by
  obtain ⟨index, -, number, name⟩ := eq_of_mem_listed member
  have unnamed : rendering.columnNames[index]?.join = none := by
    cases own : rendering.columnNames[index]? with
    | none => rfl
    | some name => rw [given name (List.mem_of_getElem? own), Option.join_some]
  rw [name, unnamed, Option.getD_none, fallbackName, if_pos inside, number]

/-- **No column has to give way.** -/
theorem shownColumns_eq {recovery : Recovery} (locates : recovery.Locates rendering)
    (columns : Columns) : rendering.shownColumns columns = rendering.listed columns := by
  unfold shownColumns
  cases locates with
  | elements inside numbered => rw [if_neg (by simp [inside])]; rfl
  | attributes inside configured given plain =>
    rw [if_pos inside]
    have names := fun column (member : column ∈ rendering.listed columns) =>
      name_of_mem_listed inside given member
    refine DocumentStyle.distinctNames_eq_self plain (NameSet.holds_ofList _) names ?_
      (nodup_listed rendering columns)
    intro column member taken
    have reserved := DocumentStyle.isReserved_of_mem taken
    rw [names column member, DocumentStyle.isReserved_numberedName plain] at reserved
    cases reserved

end Rendering

end FlatFile
