/-
  FlatFile/Column/Layout.lean
  ===========================
  **How a line is divided into columns.**

  Four layouts are known.  *Fixed* columns have a width each, counted in
  characters.  *Delimited* columns stand between the occurrences of a separator.
  A *variable* layout has fixed columns first; the trimmed value of one of them,
  the discriminator, selects the widths of the columns that follow, where a
  negative width marks a column that this kind of line does not have.  A *custom*
  layout is any function from a line to its columns.

  A column of a line may be unset: the line is too short for it, or its layout
  leaves it out.
-/
import FlatFile.Failure
import FlatFile.Text.Blank

namespace FlatFile

/-- The columns of a line in order; `none` is a column left unset. -/
abbrev Columns := List (Option (List Char))

/-! ### Suffixes by discriminator value -/

/-- The widths of the further columns for each registered discriminator value.  No
    value is registered twice. -/
structure SuffixTable where
  entries : List (String × List Int32)
  distinct : (entries.map Prod.fst).Nodup
deriving DecidableEq

namespace SuffixTable

def empty : SuffixTable := ⟨[], List.nodup_nil⟩

def find? (table : SuffixTable) (value : String) : Option (List Int32) :=
  (table.entries.find? fun entry => entry.1 == value).map Prod.snd

/-- Registers the widths for a value, in place of those it may have had. -/
def insert (table : SuffixTable) (value : String) (widths : List Int32) : SuffixTable :=
  if h : value ∈ table.entries.map Prod.fst then
    ⟨table.entries.map fun entry => if entry.1 = value then (value, widths) else entry, by
      have same : (table.entries.map fun entry =>
          if entry.1 = value then (value, widths) else entry).map Prod.fst
          = table.entries.map Prod.fst := by
        rw [List.map_map]
        apply List.map_congr_left
        intro entry _
        by_cases hv : entry.1 = value <;> simp [hv]
      rw [same]
      exact table.distinct⟩
  else
    ⟨table.entries ++ [(value, widths)], by
      rw [List.map_append, List.nodup_append]
      refine ⟨table.distinct, by simp, ?_⟩
      intro a ha b hb
      simp only [List.map_cons, List.map_nil, List.mem_singleton] at hb
      subst hb
      rintro rfl
      exact h ha⟩

end SuffixTable

/-! ### Layouts -/

/-- Fixed columns first, then columns that depend on the discriminator. -/
structure BranchingLayout where
  /-- The discriminator's position among the first columns, from zero. -/
  discriminatorIndex : UInt64
  prefixWidths : List UInt64
  suffixes : SuffixTable
deriving DecidableEq

namespace BranchingLayout

/-- The widths of the columns every line has. -/
def leading (layout : BranchingLayout) : List (Option Nat) :=
  layout.prefixWidths.map fun width => some width.toNat

/-- A width of the columns that follow; a negative one is that of an absent column. -/
def columnWidth? (width : Int32) : Option Nat :=
  if 0 ≤ width.toInt then some width.toInt.toNat else none

/-- The registered widths for a discriminator value: blanks around the value are of no
    account, and a blank value has none. -/
def widthsAfter? (layout : BranchingLayout) (value : List Char) : Option (List Int32) :=
  let trimmed := Text.trim value
  if trimmed.isEmpty then none else layout.suffixes.find? (String.ofList trimmed)

/-- The widths of the columns that follow for a discriminator value. -/
def trailing? (layout : BranchingLayout) (value : List Char) : Option (List (Option Nat)) :=
  (layout.widthsAfter? value).map fun widths => widths.map columnWidth?

/-- The discriminator has to be one of the first columns. -/
def check (layout : BranchingLayout) : Except Failure Unit :=
  if layout.discriminatorIndex.toNat < layout.prefixWidths.length then .ok ()
  else
    .error (.configuration
      (.discriminatorOutside layout.discriminatorIndex.toNat layout.prefixWidths.length))

end BranchingLayout

/-- A way to divide a line that is supplied from outside.  It is given no empty
    line. -/
abbrev LineSplitter := List Char → Except Failure (Option Columns)

/-- How a line is divided into columns. -/
inductive ColumnLayout where
  | fixed (widths : List Nat)
  | delimited (separator : List Char)
  | variable (layout : BranchingLayout)
  | custom (splitter : LineSplitter)

namespace ColumnLayout

/-- A separator must not be empty, and a discriminator has to be in reach. -/
def check : ColumnLayout → Except Failure Unit
  | .fixed _ | .custom _ => .ok ()
  | .delimited separator =>
    if separator.isEmpty then .error (.configuration .separatorMissing) else .ok ()
  | .variable layout => layout.check

end ColumnLayout

end FlatFile
