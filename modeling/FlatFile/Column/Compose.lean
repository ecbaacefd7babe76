/-
  FlatFile/Column/Compose.lean
  ============================
  **Putting columns back into a line.**

  A value laid out in a column is filled up with spaces, or cut, to the width of
  the column, counting characters; one in an absent column is left out; and those
  past the last width are appended as they are.  Delimited values get the
  separator between them, and values without a layout, or under a custom one,
  stand side by side.
-/
import FlatFile.Column.Layout
import FlatFile.Text.Separated

namespace FlatFile

/-- A value filled up or cut to a width. -/
def fitted (width : Nat) (value : List Char) : List Char :=
  value.take width ++ List.replicate (width - value.length) ' '

/-- The line of the given values in columns of the given widths. -/
def composeFixed : List (Option Nat) → List (List Char) → List Char
  | _, [] => []
  | [], value :: values => value ++ composeFixed [] values
  | some width :: widths, value :: values => fitted width value ++ composeFixed widths values
  | none :: widths, _ :: values => composeFixed widths values

/-- All widths of a line under a variable layout, as its discriminator value tells. -/
def BranchingLayout.widthsFor (layout : BranchingLayout) (values : List (List Char)) :
    List (Option Nat) :=
  match values[layout.discriminatorIndex.toNat]? with
  | some value => layout.leading ++ (layout.trailing? value).getD []
  | none => layout.leading

/-- **The line of the given values.** -/
def ColumnLayout.compose (layout : Option ColumnLayout) (values : List (List Char)) : List Char :=
  match layout with
  | some (.delimited separator) => Text.join separator values
  | some (.fixed widths) => composeFixed (widths.map some) values
  | some (.variable layout) => composeFixed (layout.widthsFor values) values
  | some (.custom _) | none => values.flatten

end FlatFile
