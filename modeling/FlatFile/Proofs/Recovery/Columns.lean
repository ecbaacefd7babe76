/-
  FlatFile/Proofs/Recovery/Columns.lean
  =====================================
  **Columns that are put in place one by one come out as the columns of a line.**

  A document shows the columns of a line that are set, in their order; a record keeps
  them the last one first, and the others are filled in when the line is composed.
  `cells` are the columns shown with their positions, `trimmed` are the columns up to
  the last one shown.  A record that got the cells of some columns has the line of
  these, trimmed (`line_of_columns`).

  What a record gathers are columns as they are met, some of which tell no position;
  `Leads` says which cells they come to (`gather_columns`).

  Positions are words, so there must be fewer columns than words.
-/
import FlatFile.Proofs.Column.Restore
import FlatFile.Proofs.Markup.Escaping
import FlatFile.Recovery.Record
import Mathlib.Data.List.DropRight

namespace FlatFile

open Markup

namespace Columns

/-! ### The columns that are set -/

/-- The columns that are set, with their positions from zero. -/
def cells (columns : Columns) : List (Nat × List Char) :=
  columns.zipIdx.filterMap fun (column, index) => column.map (index, ·)

/-- The columns up to the last one that is set. -/
def trimmed (columns : Columns) : Columns := columns.rdropWhile Option.isNone

theorem cells_append (columns : Columns) (column : Option (List Char)) :
    cells (columns ++ [column]) = cells columns ++ (column.map (columns.length, ·)).toList := by
  unfold cells
  rw [List.zipIdx_append, List.filterMap_append]
  cases column with
  | none => simp
  | some text => simp

theorem lt_of_mem_cells {columns : Columns} {cell : Nat × List Char}
    (inside : cell ∈ cells columns) : cell.1 < columns.length := by
  rcases List.mem_filterMap.mp inside with ⟨⟨column, index⟩, member, shown⟩
  rcases Option.map_eq_some_iff.mp shown with ⟨text, -, rfl⟩
  have below := (List.mem_zipIdx member).2.1
  rwa [Nat.zero_add] at below

theorem trimmed_append_none (columns : Columns) : trimmed (columns ++ [none]) = trimmed columns :=
  List.rdropWhile_concat_pos _ _ _ rfl

theorem trimmed_append_some (columns : Columns) (text : List Char) :
    trimmed (columns ++ [some text]) = columns ++ [some text] :=
  List.rdropWhile_concat_neg _ _ _ Bool.false_ne_true

theorem eq_trimmed_append (columns : Columns) :
    ∃ unset, columns = trimmed columns ++ List.replicate unset none := by
  induction columns using List.reverseRecOn with
  | nil => exact ⟨0, rfl⟩
  | append_singleton columns column ih =>
    cases column with
    | none =>
      rcases ih with ⟨unset, eq⟩
      refine ⟨unset + 1, ?_⟩
      rw [trimmed_append_none, List.replicate_succ', ← List.append_assoc, ← eq]
    | some text => exact ⟨0, by rw [trimmed_append_some, List.replicate_zero, List.append_nil]⟩

/-- The columns without the empty ones at some positions, counted from `before`. -/
def sparing (leaves : Nat → Bool) (before : Nat) (columns : Columns) : Columns :=
  (columns.zipIdx before).map fun (column, index) =>
    if column = some [] ∧ leaves index then none else column

theorem sparing_none (before : Nat) (columns : Columns) :
    sparing (fun _ => false) before columns = columns := by
  simp [sparing, List.zipIdx_map_fst]

theorem sparing_append (leaves : Nat → Bool) (before : Nat) (columns more : Columns) :
    sparing leaves before (columns ++ more) =
      sparing leaves before columns ++ sparing leaves (before + columns.length) more := by
  simp [sparing, List.zipIdx_append]

theorem sparing_replicate (leaves : Nat → Bool) (before unset : Nat) :
    sparing leaves before (List.replicate unset none) = List.replicate unset none := by
  rw [List.eq_replicate_iff, sparing, List.length_map, List.length_zipIdx, List.length_replicate]
  refine ⟨rfl, fun column inside => ?_⟩
  rcases List.mem_map.mp inside with ⟨⟨column', index⟩, member, rfl⟩
  have unset' : column' = none :=
    List.eq_of_mem_replicate (List.fst_mem_of_mem_zipIdx member)
  rw [unset']
  rfl

theorem sparing_getD (leaves : Nat → Bool) (before : Nat) (columns : Columns) :
    (sparing leaves before columns).map (·.getD []) = columns.map (·.getD []) := by
  have same := congrArg (List.map (·.getD [])) (List.zipIdx_map_fst before columns)
  rw [← same, sparing, List.map_map, List.map_map]
  apply List.map_congr_left
  rintro ⟨column, index⟩ _
  simp only [Function.comp]
  split
  · rename_i left
    rw [left.1]
    rfl
  · rfl

theorem trimmed_append_replicate (columns : Columns) (unset : Nat) :
    trimmed (columns ++ List.replicate unset none) = trimmed columns := by
  induction unset with
  | zero => rw [List.replicate_zero, List.append_nil]
  | succ unset ih => rw [List.replicate_succ', ← List.append_assoc, trimmed_append_none, ih]

theorem getD_some (tokens : List (List Char)) : (tokens.map some).map (·.getD []) = tokens := by
  rw [List.map_map]
  exact List.map_id tokens

theorem trimmed_map_some (tokens : List (List Char)) :
    trimmed (tokens.map some) = tokens.map some := by
  cases tokens using List.reverseRecOn with
  | nil => rfl
  | append_singleton tokens token =>
    rw [List.map_append, List.map_singleton, trimmed_append_some]

/-! ### Columns put back into the line -/

/-- **A delimited line** comes back from its columns whole. -/
theorem compose_split {separator : List Char} (nonempty : separator ≠ []) (line : List Char) :
    ColumnLayout.compose (some (.delimited separator))
      ((trimmed ((Text.split separator line).map some)).map (·.getD [])) = line := by
  rw [trimmed_map_some, getD_some]
  exact Text.join_split nonempty line

/-- What is recovered of some columns, and what is lost: the values of the first ones, and columns
    without a value behind them. -/
theorem recovered_append (leaves : Nat → Bool) (columns : Columns) :
    ∃ lost, (trimmed (sparing leaves 0 columns)).map (·.getD []) ++ List.replicate lost [] =
      columns.map (·.getD []) := by
  obtain ⟨lost, eq⟩ := eq_trimmed_append (sparing leaves 0 columns)
  refine ⟨lost, ?_⟩
  have values := sparing_getD leaves 0 columns
  rw [eq, List.map_append, List.map_replicate] at values
  exact values

/-- **A line with columns of some widths** comes back from them up to its last boundary, whichever
    of the empty ones are left out. -/
theorem compose_cut (leaves : Nat → Bool) (widths : List (Option Nat)) (line : List Char) :
    composeFixed widths
      ((trimmed (sparing leaves 0 (cut (some line) widths).1)).map (·.getD [])) =
      line.take (lastBoundary widths.reduceOption line.length) := by
  obtain ⟨reached, unset, columns, lengths, flattened⟩ := cut_eq widths line
  rw [columns, sparing_append, sparing_replicate, trimmed_append_replicate, ← flattened]
  obtain ⟨lost, values⟩ := recovered_append leaves reached
  generalize (trimmed (sparing leaves 0 reached)).map (·.getD []) = kept at values ⊢
  -- What is lost has no characters, so the values that are kept are those of first columns that
  -- still have just their widths.
  have first : kept = (reached.take kept.length).map (·.getD []) := by
    rw [List.map_take, ← values, List.take_left]
  have fits : (reached.take kept.length).map (Option.map List.length) <+: widths := by
    rw [List.map_take]
    exact (List.take_prefix _ _).trans lengths
  calc composeFixed widths kept
      = kept.flatten := by rw [first, composeFixed_of_lengths fits]
    _ = (kept ++ List.replicate lost []).flatten := by simp
    _ = (reached.map (·.getD [])).flatten := by rw [values]

end Columns

namespace Record

open Columns

/-! ### Columns in place -/

/-- Some columns with cells put in place, one after the other. -/
def placeAll (cells : List (Nat × List Char)) (columns : List (UInt64 × List Char)) :
    List (UInt64 × List Char) :=
  cells.foldl (fun columns cell => placeColumn (UInt64.ofNat cell.1) (escape cell.2) columns)
    columns

/-- The cells of some columns as a record keeps them. -/
def held (columns : Columns) : List (UInt64 × List Char) :=
  (cells columns).reverse.map fun cell => (UInt64.ofNat cell.1, escape cell.2)

theorem held_append_none (columns : Columns) : held (columns ++ [none]) = held columns := by
  rw [held, cells_append, Option.map_none, Option.toList_none, List.append_nil, held]

theorem held_append_some (columns : Columns) (text : List Char) :
    held (columns ++ [some text]) =
      (UInt64.ofNat columns.length, escape text) :: held columns := by
  simp [held, cells_append]

theorem lt_of_mem_held {columns : Columns} (few : columns.length < UInt64.size)
    {column : UInt64 × List Char} (inside : column ∈ held columns) :
    column.1.toNat < columns.length := by
  rcases List.mem_map.mp inside with ⟨cell, member, rfl⟩
  have below := lt_of_mem_cells (List.mem_reverse.mp member)
  rwa [UInt64.toNat_ofNat_of_lt' (Nat.lt_trans below few)]

theorem placeColumn_of_lt {position : UInt64} {raw : List Char}
    {columns : List (UInt64 × List Char)} (behind : ∀ column ∈ columns, column.1 < position) :
    placeColumn position raw columns = (position, raw) :: columns := by
  cases columns with
  | nil => rfl
  | cons column columns => rw [placeColumn, if_pos (behind column List.mem_cons_self)]

theorem placeColumn_ne_nil (position : UInt64) (raw : List Char)
    (columns : List (UInt64 × List Char)) : placeColumn position raw columns ≠ [] := by
  cases columns with
  | nil => exact List.cons_ne_nil _ _
  | cons column columns =>
    rw [placeColumn]
    split
    · exact List.cons_ne_nil _ _
    · split <;> exact List.cons_ne_nil _ _

/-- **Cells put in place one by one** are held in the order of their positions. -/
theorem placeAll_cells {columns : Columns} (few : columns.length < UInt64.size) :
    placeAll (cells columns) [] = held columns := by
  induction columns using List.reverseRecOn with
  | nil => rfl
  | append_singleton columns column ih =>
    rw [List.length_append, List.length_singleton] at few
    have before := ih (by omega)
    rw [placeAll] at before ⊢
    rw [cells_append, List.foldl_append, before]
    cases column with
    | none => exact (held_append_none columns).symm
    | some text =>
      rw [held_append_some, Option.map_some, Option.toList_some, List.foldl_cons, List.foldl_nil]
      apply placeColumn_of_lt
      intro other inside
      rw [UInt64.lt_iff_toNat_lt, UInt64.toNat_ofNat_of_lt' (by omega)]
      exact lt_of_mem_held (by omega) inside

/-! ### Columns as they are met -/

/-- A column as a recovery meets it: the position that it tells, if it tells one, and its value. -/
abbrev Sighting := Option UInt64 × List Char

/-- A record with some columns put in, one after the other. -/
def gather (record : Record) (sightings : List Sighting) : Record :=
  sightings.foldl (fun record sighting => record.addColumn sighting.1 (escape sighting.2)) record

/-- **The columns that are met lead to some cells**: one that tells no position follows the one
    before it. -/
inductive Leads : UInt64 → List Sighting → List (Nat × List Char) → Prop where
  | nil {following : UInt64} : Leads following [] []
  | cons {following : UInt64} {position : Option UInt64} {index : Nat} {value : List Char}
      {sightings : List Sighting} {cells : List (Nat × List Char)}
      (here : position.getD following = UInt64.ofNat index)
      (others : Leads (UInt64.ofNat index + 1) sightings cells) :
      Leads following ((position, value) :: sightings) ((index, value) :: cells)

theorem gather_columns {record : Record} {sightings : List Sighting}
    {cells : List (Nat × List Char)} (leads : Leads record.following sightings cells) :
    (record.gather sightings).columns = placeAll cells record.columns := by
  generalize start : record.following = following at leads
  induction leads generalizing record with
  | nil => rfl
  | @cons following position index value sightings cells here others ih =>
    have next : (record.addColumn position (escape value)).following = UInt64.ofNat index + 1 := by
      rw [addColumn, start, here]
    have placed : (record.addColumn position (escape value)).columns =
        placeColumn (UInt64.ofNat index) (escape value) record.columns := by
      rw [addColumn, start, here]
    rw [gather, List.foldl_cons, ← gather, ih next, placed]
    rfl

def withText (record : Record) (text : Growing Char) : Record := { record with text }

/-- The text of a record has no part in where columns go. -/
theorem gather_withText (record : Record) (text : Growing Char) (sightings : List Sighting) :
    (record.withText text).gather sightings = (record.gather sightings).withText text := by
  induction sightings generalizing record with
  | nil => rfl
  | cons sighting sightings ih => exact ih (record.addColumn sighting.1 (escape sighting.2))

theorem gather_text (record : Record) (sightings : List Sighting) :
    (record.gather sightings).text = record.text := by
  rw [show record = record.withText record.text from rfl, gather_withText]
  rfl

theorem gather_columns_ne_nil (record : Record) {sightings : List Sighting}
    (nonempty : sightings ≠ []) : (record.gather sightings).columns ≠ [] := by
  cases sightings using List.reverseRecOn with
  | nil => exact absurd rfl nonempty
  | append_singleton sightings sighting =>
    rw [gather, List.foldl_append]
    exact placeColumn_ne_nil _ _ _

/-! ### Slots -/

theorem slotsBelow_of_lt {position : Nat} {columns : List (UInt64 × List Char)}
    (below : ∀ column ∈ columns, column.1.toNat < position) (slots : List (Option (List Char))) :
    slotsBelow (position + 1) columns slots = slotsBelow position columns (none :: slots) := by
  cases columns with
  | nil => rfl
  | cons column columns =>
    rw [slotsBelow, if_neg (Nat.ne_of_lt (below column List.mem_cons_self))]

theorem slotsBelow_held {columns : Columns} (few : columns.length < UInt64.size)
    (slots : List (Option (List Char))) :
    slotsBelow columns.length (held columns) slots = columns.map (Option.map escape) ++ slots := by
  induction columns using List.reverseRecOn generalizing slots with
  | nil => rfl
  | append_singleton columns column ih =>
    rw [List.length_append, List.length_singleton] at few ⊢
    cases column with
    | none =>
      rw [held_append_none, slotsBelow_of_lt (fun _ inside => lt_of_mem_held (by omega) inside),
        ih (by omega)]
      simp
    | some text =>
      rw [held_append_some, slotsBelow, if_pos (UInt64.toNat_ofNat_of_lt' (by omega)),
        ih (by omega)]
      simp

variable {record : Record} {columns : Columns}

/-- **The slots of a record** are the columns up to the last one that is set. -/
theorem slots_of_held (few : columns.length < UInt64.size) (h : record.columns = held columns) :
    record.slots = (trimmed columns).map (Option.map escape) := by
  induction columns using List.reverseRecOn with
  | nil => simp [slots, width, h, held, cells, trimmed, slotsBelow]
  | append_singleton columns column ih =>
    cases column with
    | none =>
      rw [held_append_none] at h
      rw [List.length_append, List.length_singleton] at few
      rw [trimmed_append_none]
      exact ih (by omega) h
    | some text =>
      have width : record.width = (columns ++ [some text]).length := by
        rw [List.length_append, List.length_singleton] at few ⊢
        rw [width, h, held_append_some]
        have one : (1 : UInt64).toNat = 1 := rfl
        have position := UInt64.toNat_ofNat_of_lt' (show columns.length < UInt64.size by omega)
        simp only [UInt64.toNat_add, position, one]
        exact Nat.mod_eq_of_lt few
      rw [slots, width, h, slotsBelow_held few, List.append_nil, trimmed_append_some]

end Record

namespace Recovery

open Columns

variable {recovery : Recovery} {record : Record} {columns : Columns}

/-! ### The line of a record -/

theorem value_of_raw (unconverted : ∀ index, recovery.converters.converter? index = none)
    (column : Option (List Char)) (position : Nat) :
    recovery.value (column.map escape) position = .ok (column.getD []) := by
  cases column with
  | none => simp only [Option.map_none, value, ColumnConverters.toLine, unconverted]
  | some text =>
    simp only [Option.map_some, value, unescape_escape, ColumnConverters.toLine, unconverted]
    rfl

theorem compose_nil (layout : Option ColumnLayout) : ColumnLayout.compose layout [] = [] := by
  cases layout with
  | none => rfl
  | some chosen => cases chosen <;> rfl

/-- A record with columns does not use its text. -/
theorem line_withText (recovery : Recovery) (record : Record) (text : Growing Char)
    (columns : record.columns ≠ []) :
    recovery.line (record.withText text) = recovery.line record := by
  unfold line
  rw [if_neg (by simpa [Record.withText] using columns), if_neg (by simpa using columns)]
  rfl

/-- **The line of a record is that of the columns it got**, up to the last one that is set; those
    in between that are not are empty. -/
theorem line_of_columns (unconverted : ∀ index, recovery.converters.converter? index = none)
    (few : columns.length < UInt64.size) (h : record.columns = Record.placeAll (cells columns) [])
    (blank : record.columns = [] → record.text.toList = []) :
    recovery.line record =
      .ok (ColumnLayout.compose recovery.layout ((trimmed columns).map (·.getD []))) := by
  rw [Record.placeAll_cells few] at h
  have slots := Record.slots_of_held few h
  unfold line
  by_cases none_set : record.columns = []
  · have nothing : trimmed columns = [] := by
      rw [← List.map_eq_nil_iff, ← slots, Record.slots, Record.width, none_set]
      rfl
    rw [if_pos (by rw [none_set]; rfl), blank none_set, nothing, List.map_nil, compose_nil]
    rfl
  · rw [if_neg (by simpa using none_set), slots, List.zipIdx_map, List.mapM_map]
    have values : (fun slot : Option (List Char) × Nat => recovery.value slot.1 slot.2)
        ∘ Prod.map (Option.map escape) id = fun slot => pure (slot.1.getD []) :=
      funext fun slot => value_of_raw unconverted slot.1 slot.2
    change Except.map _ (List.mapM ((fun slot : Option (List Char) × Nat =>
      recovery.value slot.1 slot.2) ∘ _) _) = _
    rw [values, List.mapM_pure]
    change Except.ok _ = _
    have columnwise : (trimmed columns).zipIdx.map (fun slot => slot.1.getD []) =
        (trimmed columns).map (·.getD []) := by
      have same := congrArg (List.map (·.getD [])) (List.zipIdx_map_fst 0 (trimmed columns))
      rwa [List.map_map] at same
    rw [columnwise]

end Recovery

end FlatFile
