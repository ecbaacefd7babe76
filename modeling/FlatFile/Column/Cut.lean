/-
  FlatFile/Column/Cut.lean
  ========================
  **Cutting a line into columns.**

  Columns with widths are cut one after the other, counting characters.  The
  first one the line is too short for stays unset, and so do all that follow; an
  absent column stays unset and takes nothing from the line.  An empty line has
  no columns under any layout.
-/
import FlatFile.Column.Layout
import FlatFile.Text.Separated

namespace FlatFile

namespace Columns

/-- Cuts columns from the text not cut yet, `none` when it has run out: the columns,
    and the text after the last of them. -/
def cut : Option (List Char) → List (Option Nat) → Columns × Option (List Char)
  | text, [] => ([], text)
  | none, _ :: widths =>
    let (columns, rest) := cut none widths
    (none :: columns, rest)
  | some text, none :: widths =>
    let (columns, rest) := cut (some text) widths
    (none :: columns, rest)
  | some text, some width :: widths =>
    if width ≤ text.length then
      let (columns, rest) := cut (some (text.drop width)) widths
      (some (text.take width) :: columns, rest)
    else
      let (columns, rest) := cut none widths
      (none :: columns, rest)

end Columns

/-- The columns of a line under a variable layout. -/
def BranchingLayout.columns (layout : BranchingLayout) (line : List Char) :
    Except Failure Columns :=
  let (leading, rest) := Columns.cut (some line) layout.leading
  match leading[layout.discriminatorIndex.toNat]? with
  | some (some value) =>
    match layout.trailing? value with
    | none => .ok leading
    | some widths => .ok (leading ++ (Columns.cut rest widths).1)
  | _ =>
    .error (.layout
      (.discriminatorUnreached line.length (layout.discriminatorIndex + 1).toNat))

/-- **The columns of a line**, none for an empty one. -/
def ColumnLayout.columns (layout : ColumnLayout) (line : List Char) :
    Except Failure (Option Columns) :=
  if line.isEmpty then .ok none
  else
    match layout with
    | .fixed widths => .ok (some (Columns.cut (some line) (widths.map some)).1)
    | .delimited separator => .ok (some ((Text.split separator line).map some))
    | .variable layout => (layout.columns line).map some
    | .custom splitter => splitter line

end FlatFile
