/-
  FlatFile/Document/Origin.lean
  =============================
  **Where the lines of a document come from.**

  A document carries the name and the location of its file.  The name of a path
  is its last component, unless that is `..` or there is none.  The document made
  of a file is called like it, with the ending `xml` in place of its own: the old
  ending is dropped first, and what is left gets the new one if it names a file.
-/
import FlatFile.Text.Separated

namespace FlatFile

/-! ### Paths -/

namespace Path

/-- A component that leads somewhere: not empty, and not the directory itself. -/
def leads (component : List Char) : Bool := component != [] && component != ['.']

/-- The components of a path between its slashes, those without effect left out. -/
def components (path : List Char) : List (List Char) := (Text.split ['/'] path).filter leads

/-- The last component, if it names something. -/
def fileName? (path : List Char) : Option (List Char) :=
  match (components path).getLast? with
  | some name => if name = ['.', '.'] then none else some name
  | none => none

/-- The path, last character first, without the slashes at its end and the components
    there that lead nowhere. -/
def dropIdleTail : List Char → List Char
  | '/' :: rest => dropIdleTail rest
  | '.' :: '/' :: rest => dropIdleTail rest
  | path => path

/-- A file name before and after its last point; one whose only point comes first has no
    ending. -/
def splitName (name : List Char) : List Char × Option (List Char) :=
  match name.reverse.dropWhile (· != '.') with
  | [] | [_] => (name, none)
  | _ :: stem => (stem.reverse, some (name.drop (stem.length + 1)))

/-- The path without the ending of its file name, counted off from its end. -/
def withoutEnding (path : List Char) : List Char :=
  match (fileName? path).bind fun name => (splitName name).2 with
  | some ending => path.take (path.length - ending.length)
  | none => path

/-- The path whose file name ends in `ending`; a path that names no file stays as it
    is. -/
def withEnding (ending path : List Char) : List Char :=
  let bare := withoutEnding path
  match fileName? bare with
  | none => bare
  | some name =>
    let whole := dropIdleTail bare.reverse
    (whole.drop name.length).reverse ++ (splitName name).1 ++ '.' :: ending

end Path

/-! ### Origins -/

/-- The name and the location of a file. -/
structure Origin where
  name : String
  location : String
deriving DecidableEq, Repr

namespace Origin

def ofPath (path : String) : Origin :=
  ⟨(Path.fileName? path.toList).elim path String.ofList, path⟩

/-- The name of the document made of the file. -/
def documentName (origin : Origin) : String :=
  String.ofList (Path.withEnding ['x', 'm', 'l'] origin.name.toList)

end Origin

end FlatFile
