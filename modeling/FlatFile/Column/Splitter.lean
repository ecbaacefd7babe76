/-
  FlatFile/Column/Splitter.lean
  =============================
  **Two ready-made custom splitters.**

  `words` takes the words of a line, with marks for a record that is refused, for
  one that has no columns and for a column that stays unset.  `keyValue` takes a
  line for a key and a value.
-/
import FlatFile.Column.Layout
import FlatFile.Text.Separated

namespace FlatFile.LineSplitter

/-- The words between single spaces, `~` standing for an unset column.  A line that
    begins with `bad` is refused, one that begins with `ioerr` fails like a broken
    device, and one that begins with `skip` has no columns. -/
def words : LineSplitter := fun line =>
  if Text.startsWith "bad".toList line then .error (.layout (.refused "unknown record type"))
  else if Text.startsWith "ioerr".toList line then
    .error (.io ⟨.other, some "extractor failed"⟩)
  else if Text.startsWith "skip".toList line then .ok none
  else .ok (some ((Text.split [' '] line).map fun word => if word = ['~'] then none else some word))

/-- The texts before and after the first equals sign, or the whole line without one. -/
def keyValue : LineSplitter := fun line =>
  match line.dropWhile (· != '=') with
  | [] => .ok (some [some line])
  | _ :: value => .ok (some [some (line.takeWhile (· != '=')), some value])

end FlatFile.LineSplitter
