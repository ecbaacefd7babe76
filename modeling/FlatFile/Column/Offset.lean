/-
  FlatFile/Column/Offset.lean
  ===========================
  **Cutting a line at byte offsets.**

  A line that is held in UTF-8 is cut at offsets into its bytes, while widths count
  characters.  A piece between two offsets can be taken only if a character begins at
  either of them or the line ends there; anything else is a fault, and so is an offset
  past the end.  `none` stands for a fault here, and a column or an offset that there is
  not is `none` one level deeper.

  These functions cut a line as `ColumnLayout.columns` does, without ever meeting a fault.
-/
import FlatFile.Column.Cut

namespace FlatFile

namespace Text

/-- The number of bytes of a text. -/
def byteLength : List Char → Nat
  | [] => 0
  | c :: rest => c.utf8Size + byteLength rest

/-- The text from an offset on. -/
def fromOffset? : Nat → List Char → Option (List Char)
  | 0, text => some text
  | _ + 1, [] => none
  | offset + 1, c :: rest =>
    if c.utf8Size ≤ offset + 1 then fromOffset? (offset + 1 - c.utf8Size) rest else none

/-- The text before an offset. -/
def upToOffset? : Nat → List Char → Option (List Char)
  | 0, _ => some []
  | _ + 1, [] => none
  | offset + 1, c :: rest =>
    if c.utf8Size ≤ offset + 1 then
      (upToOffset? (offset + 1 - c.utf8Size) rest).map (c :: ·)
    else none

/-- The text between two offsets. -/
def slice? (text : List Char) (start stop : Nat) : Option (List Char) :=
  if start ≤ stop then (fromOffset? start text).bind (upToOffset? (stop - start)) else none

/-- The offset at which a character begins, counted from zero; none if there are not so many. -/
def offsetOf? : List Char → Nat → Option Nat
  | [], _ => none
  | _ :: _, 0 => some 0
  | c :: rest, index + 1 => (offsetOf? rest index).map (c.utf8Size + ·)

/-- The offset some characters after another one, if the text is long enough. -/
def offsetAfter? (text : List Char) (start count : Nat) : Option (Option Nat) :=
  if count = 0 then some (some start)
  else
    (fromOffset? start text).map fun rest =>
      match offsetOf? rest count with
      | some offset => some (start + offset)
      | none => if rest.length = count then some (byteLength text) else none

end Text

/-- Cuts columns from an offset on, `none` when the line has run out: the columns, and the offset
    after the last of them. -/
def Columns.cutAt? (line : List Char) :
    Option Nat → List (Option Nat) → Option (Columns × Option Nat)
  | position, [] => some ([], position)
  | none, _ :: widths => do
    let (columns, stop) ← cutAt? line none widths
    return (none :: columns, stop)
  | some start, none :: widths => do
    let (columns, stop) ← cutAt? line (some start) widths
    return (none :: columns, stop)
  | some start, some width :: widths => do
    match ← Text.offsetAfter? line start width with
    | some next =>
      let column ← Text.slice? line start next
      let (columns, stop) ← cutAt? line (some next) widths
      return (some column :: columns, stop)
    | none =>
      let (columns, stop) ← cutAt? line none widths
      return (none :: columns, stop)

/-- The columns of a line under a variable layout. -/
def BranchingLayout.columnsAt? (layout : BranchingLayout) (line : List Char) :
    Option (Except Failure Columns) := do
  let (leading, stop) ← Columns.cutAt? line (some 0) layout.leading
  match leading[layout.discriminatorIndex.toNat]? with
  | some (some value) =>
    match layout.trailing? value, stop with
    | none, _ => return .ok leading
    | some widths, some start =>
      let (trailing, _) ← Columns.cutAt? line (some start) widths
      return .ok (leading ++ trailing)
    | some widths, none => return .ok (leading ++ List.replicate widths.length none)
  | _ =>
    return .error (.layout
      (.discriminatorUnreached line.length (layout.discriminatorIndex + 1).toNat))

/-- **The columns of a line**, cut at byte offsets where they have widths. -/
def ColumnLayout.columnsAt? (layout : ColumnLayout) (line : List Char) :
    Option (Except Failure (Option Columns)) :=
  if line.isEmpty then some (.ok none)
  else
    match layout with
    | .fixed widths => do
      let (columns, _) ← Columns.cutAt? line (some 0) (widths.map some)
      return .ok (some columns)
    | .variable layout => (layout.columnsAt? line).map (Except.map some)
    | .delimited _ | .custom _ => some (layout.columns line)

end FlatFile
