/-
  FlatFile/Proofs/Document/Names.lean
  ===================================
  **No line carries an attribute twice.**

  A column gives way until it finds a name that is not taken.  There always is one: a
  set has no more names than were put in, and one more try than that is made, each with
  another name (`exists_freeName`).  Which name a column ends up with is `NamedAs`, and
  `Renames` is the same for the columns of a line, where each name is taken for the columns
  behind it (`renames_distinctNames`).  So these names are pairwise different, and none of
  them was taken before (`Renames.nodup`).
-/
import FlatFile.Document.Line
import FlatFile.Proofs.Markup.Names
import FlatFile.Proofs.Text.Numerals

namespace FlatFile

/-! ### What a set of names holds -/

namespace Markup.NameSet

/-- The set holds these names, each put in once. -/
structure Holds (set : NameSet) (names : List (List Char)) : Prop where
  count : set.insertions = names.length
  contains_iff : ∀ name, set.contains name = true ↔ name ∈ names

theorem holds_empty : Holds empty [] :=
  ⟨rfl, fun name => by simp⟩

theorem Holds.insert {set : NameSet} {names : List (List Char)} (holds : set.Holds names)
    (name : List Char) : (set.insert name).Holds (name :: names) := by
  constructor
  · rw [NameSet.insert, holds.count, List.length_cons]
  · intro other
    rw [contains_insert, Bool.or_eq_true, holds.contains_iff, beq_iff_eq, List.mem_cons]

theorem Holds.foldl {set : NameSet} {names : List (List Char)} (holds : set.Holds names)
    (more : List (List Char)) : (more.foldl NameSet.insert set).Holds (more.reverse ++ names) := by
  induction more generalizing set names with
  | nil => exact holds
  | cons name more ih => simpa using ih (holds.insert name)

theorem holds_ofList (names : List (List Char)) : (ofList names).Holds names := by
  have all := holds_empty.foldl names
  rw [List.append_nil] at all
  constructor
  · rw [← List.length_reverse]
    exact all.count
  · intro name
    rw [← List.mem_reverse]
    exact all.contains_iff name

theorem Holds.contains_eq_false {set : NameSet} {names : List (List Char)} (holds : set.Holds names)
    {name : List Char} : set.contains name = false ↔ name ∉ names := by
  rw [← Bool.not_eq_true, holds.contains_iff]

end Markup.NameSet

open Markup

variable {set : NameSet} {taken : List (List Char)}

/-! ### Free names -/

/-- Where one of the names tried is not taken, the first such one is chosen. -/
theorem freeName_of_free {base : List Char} {tries k : Nat}
    (free : ∃ i < tries, set.contains (base ++ '_' :: Text.decimal (k + i)) = false) :
    ∃ i < tries, freeName set base tries k = base ++ '_' :: Text.decimal (k + i)
      ∧ set.contains (base ++ '_' :: Text.decimal (k + i)) = false
      ∧ ∀ j < i, set.contains (base ++ '_' :: Text.decimal (k + j)) = true := by
  induction tries generalizing k with
  | zero =>
    rcases free with ⟨i, below, -⟩
    exact absurd below (Nat.not_lt_zero i)
  | succ tries ih =>
    rw [freeName]
    by_cases here : set.contains (base ++ '_' :: Text.decimal k) = true
    · rw [if_pos here]
      have later : ∃ i < tries, set.contains (base ++ '_' :: Text.decimal (k + 1 + i)) = false := by
        rcases free with ⟨i, below, unused⟩
        cases i with
        | zero =>
          rw [Nat.add_zero, here] at unused
          cases unused
        | succ i => exact ⟨i, by omega, by rw [Nat.add_assoc, Nat.add_comm 1 i]; exact unused⟩
      obtain ⟨i, below, chosen, unused, before⟩ := ih later
      rw [Nat.add_right_comm] at chosen unused
      refine ⟨i + 1, by omega, chosen, unused, ?_⟩
      intro j behind
      cases j with
      | zero => exact here
      | succ j =>
        have used := before j (by omega)
        rwa [Nat.add_right_comm] at used
    · rw [if_neg here]
      exact ⟨0, Nat.succ_pos tries, rfl, by simpa using here, fun j below =>
        absurd below (Nat.not_lt_zero j)⟩

/-- **One try more than there are names is enough**: the names tried are all different, so they
    cannot all be among the taken ones. -/
theorem exists_freeName (holds : set.Holds taken) (base : List Char) (k : Nat) :
    ∃ i ≤ taken.length,
      freeName set base (set.insertions + 1) k = base ++ '_' :: Text.decimal (k + i)
      ∧ base ++ '_' :: Text.decimal (k + i) ∉ taken
      ∧ ∀ j < i, base ++ '_' :: Text.decimal (k + j) ∈ taken := by
  have free : ∃ i < set.insertions + 1,
      set.contains (base ++ '_' :: Text.decimal (k + i)) = false := by
    refine Classical.byContradiction fun all => ?_
    have used : ∀ i < set.insertions + 1, base ++ '_' :: Text.decimal (k + i) ∈ taken := by
      intro i below
      rw [← holds.contains_iff, ← Bool.not_eq_false]
      exact fun unused => all ⟨i, below, unused⟩
    have different : ((List.range (set.insertions + 1)).map fun i =>
        base ++ '_' :: Text.decimal (k + i)).Nodup := by
      rw [List.Nodup, List.pairwise_map]
      apply List.nodup_range.imp
      intro i j apart same
      have := Text.decimal_injective (List.cons.inj (List.append_cancel_left same)).2
      omega
    have inside : ((List.range (set.insertions + 1)).map fun i =>
        base ++ '_' :: Text.decimal (k + i)) ⊆ taken := by
      intro name member
      rcases List.mem_map.mp member with ⟨i, below, rfl⟩
      exact used i (List.mem_range.mp below)
    have few := different.length_le_of_subset inside
    rw [List.length_map, List.length_range, holds.count] at few
    omega
  obtain ⟨i, below, chosen, unused, before⟩ := freeName_of_free free
  refine ⟨i, ?_, chosen, holds.contains_eq_false.mp unused, ?_⟩
  · rw [holds.count] at below
    omega
  · intro j behind
    exact (holds.contains_iff _).mp (before j behind)

/-! ### The name of a column -/

namespace DocumentStyle

variable {style : DocumentStyle} {column : WrittenColumn} {name : List Char}

/-- The name of columns with the number of one and a further number. -/
def suffixedName (style : DocumentStyle) (number k : Nat) : List Char :=
  style.numberedName number ++ '_' :: Text.decimal k

/-- **The attribute name of a column** where some names are taken. -/
inductive NamedAs (style : DocumentStyle) (taken : List (List Char)) (column : WrittenColumn) :
    List Char → Prop where
  | own (free : column.name ∉ taken) (plain : declaresNamespace column.name = false) :
      NamedAs style taken column column.name
  | numbered (refused : column.name ∈ taken ∨ declaresNamespace column.name = true)
      (free : style.numberedName column.number ∉ taken) :
      NamedAs style taken column (style.numberedName column.number)
  | suffixed {k : Nat} (refused : column.name ∈ taken ∨ declaresNamespace column.name = true)
      (refused' : style.numberedName column.number ∈ taken)
      (free : style.suffixedName column.number k ∉ taken)
      (first : 2 ≤ k ∧ ∀ j, 2 ≤ j → j < k → style.suffixedName column.number j ∈ taken)
      (tries : k ≤ taken.length + 2) :
      NamedAs style taken column (style.suffixedName column.number k)

theorem namedAs_attributeName (style : DocumentStyle) (holds : set.Holds taken)
    (column : WrittenColumn) : style.NamedAs taken column (style.attributeName set column) := by
  unfold attributeName
  by_cases refused : (set.contains column.name || declaresNamespace column.name) = true
  · rw [if_pos refused]
    rw [Bool.or_eq_true, holds.contains_iff] at refused
    dsimp only
    by_cases refused' : set.contains (style.numberedName column.number) = true
    · rw [if_pos refused']
      obtain ⟨i, few, chosen, free, before⟩ :=
        exists_freeName holds (style.numberedName column.number) 2
      rw [chosen]
      refine .suffixed refused ((holds.contains_iff _).mp refused') free ?_ (by omega)
      constructor
      · exact Nat.le_add_right 2 i
      · intro j least behind
        have used := before (j - 2) (by omega)
        rwa [Nat.add_sub_cancel' least] at used
    · rw [if_neg refused']
      exact .numbered refused (holds.contains_eq_false.mp (by simpa using refused'))
  · rw [if_neg refused]
    simp only [Bool.or_eq_true, not_or, Bool.not_eq_true] at refused
    exact .own (holds.contains_eq_false.mp refused.1) refused.2

theorem NamedAs.fresh (named : style.NamedAs taken column name) : name ∉ taken := by
  cases named with
  | own free => exact free
  | numbered refused free => exact free
  | suffixed refused refused' free => exact free

theorem isName_numberedName (named : isName style.columnName.toList = true) (number : Nat) :
    isName (style.numberedName number) = true :=
  isName_append named fun _ inside => isNameChar_of_mem_decimal inside

theorem NamedAs.isName (named : style.NamedAs taken column name)
    (given : Markup.isName style.columnName.toList = true)
    (own : Markup.isName column.name = true) : Markup.isName name = true := by
  have numbered := isName_numberedName given column.number
  cases named with
  | own => exact own
  | numbered => exact numbered
  | suffixed =>
    apply isName_append numbered
    intro c inside
    rcases List.mem_cons.mp inside with rfl | inside
    · decide
    · exact isNameChar_of_mem_decimal inside

theorem numberedName_ne (style : DocumentStyle) (number : Nat) {last : Char}
    (letter : last.isDigit = false) (text : List Char) :
    style.numberedName number ≠ text ++ [last] :=
  Text.append_decimal_ne style.columnName.toList number letter text

/-- No column takes the place of the namespace. -/
theorem NamedAs.ne_xmlns (named : style.NamedAs taken column name) : name ≠ "xmlns".toList := by
  cases named with
  | own free plain =>
    intro same
    rw [same] at plain
    exact absurd plain (by decide)
  | numbered => exact style.numberedName_ne _ (show 's'.isDigit = false by decide) "xmln".toList
  | @suffixed k =>
    have other := Text.append_decimal_ne (style.numberedName column.number ++ ['_']) k
      (show 's'.isDigit = false by decide) "xmln".toList
    rwa [List.append_assoc, List.singleton_append] at other

/-! ### The names of a line -/

/-- **The columns of a line under the names they have on it**, where some names are taken. -/
inductive Renames (style : DocumentStyle) :
    List (List Char) → List WrittenColumn → List WrittenColumn → Prop where
  | nil {taken : List (List Char)} : Renames style taken [] []
  | cons {taken : List (List Char)} {column : WrittenColumn} {name : List Char}
      {columns written : List WrittenColumn} (named : style.NamedAs taken column name)
      (others : Renames style (name :: taken) columns written) :
      Renames style taken (column :: columns) ({ column with name } :: written)

theorem renames_distinctNames (style : DocumentStyle) (holds : set.Holds taken)
    (columns : List WrittenColumn) :
    style.Renames taken columns (style.distinctNames set columns) := by
  -- The set at hand grows with each column, so the names taken are generalized as well.
  induction columns generalizing set taken with
  | nil => exact .nil
  | cons column columns ih =>
    rw [distinctNames]
    exact .cons (style.namedAs_attributeName holds column) (ih (holds.insert _))

variable {columns written : List WrittenColumn}

/-- **The columns of a line get different names**, none of which was taken. -/
theorem Renames.nodup (renames : style.Renames taken columns written) :
    (written.map WrittenColumn.name).Nodup ∧ ∀ column ∈ written, column.name ∉ taken := by
  induction renames with
  | nil => exact ⟨List.nodup_nil, fun column inside => absurd inside List.not_mem_nil⟩
  | @cons taken column name columns written named others ih =>
    rcases ih with ⟨different, free⟩
    constructor
    · rw [List.map_cons, List.nodup_cons]
      refine ⟨?_, different⟩
      intro again
      rcases List.mem_map.mp again with ⟨other, inside, same⟩
      exact free other inside (same ▸ List.mem_cons_self)
    · intro other inside
      rcases List.mem_cons.mp inside with rfl | inside
      · exact named.fresh
      · exact fun taken' => free other inside (List.mem_cons_of_mem _ taken')

/-- Each column of a line is one of the columns under a name that it may have. -/
theorem Renames.exists_namedAs (renames : style.Renames taken columns written)
    {column : WrittenColumn} (inside : column ∈ written) :
    ∃ own ∈ columns, ∃ before, style.NamedAs (before ++ taken) own column.name
      ∧ column = { own with name := column.name } := by
  induction renames with
  | nil => cases inside
  | @cons taken own name columns written named others ih =>
    rcases List.mem_cons.mp inside with rfl | inside
    · exact ⟨own, List.mem_cons_self, [], named, rfl⟩
    · obtain ⟨other, member, before, named', same⟩ := ih inside
      refine ⟨other, List.mem_cons_of_mem _ member, before ++ [name], ?_, same⟩
      rwa [List.append_assoc, List.singleton_append]

theorem Renames.isName (renames : style.Renames taken columns written)
    (given : Markup.isName style.columnName.toList = true)
    (own : ∀ column ∈ columns, Markup.isName column.name = true) :
    ∀ column ∈ written, Markup.isName column.name = true := by
  intro column inside
  obtain ⟨column', member, before, named, -⟩ := renames.exists_namedAs inside
  exact named.isName given (own column' member)

end DocumentStyle

end FlatFile
