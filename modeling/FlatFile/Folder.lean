/-
  FlatFile/Folder.lean
  ====================
  **Files by their paths.**

  A folder holds files and further folders.  A path leads from the folder through
  its components, one by one: nothing comes below a file, not even the empty
  component after a slash at the end.  Of the world outside the folder nothing is
  known but that it holds the folder.

  Opening a folder for reading succeeds as it does for a file, and only the reading
  fails; a folder cannot be written at all.
-/
import FlatFile.Charset.AsciiOnly
import FlatFile.Conversion
import FlatFile.Settings.Json

namespace FlatFile

/-- The names from a file or folder up to the outermost folder. -/
abbrev Location := List (List Char)

/-- The files of a folder, and the folders in it, at their locations. -/
structure Folder where
  files : List (Location × List UInt8) := []
  folders : List Location := []

/-- Where a path has led so far. -/
inductive Place where
  | file (bytes : List UInt8)
  | folder (location : Location)
  | outside

namespace Folder

/-! ### Paths -/

def longestName : Nat := 255

def longestPath : Nat := 4095

def byteCount (name : List Char) : Nat := (String.ofList name).utf8ByteSize

/-- What is at a location. -/
def find? (folder : Folder) (location : Location) : Except IoKind Place :=
  match folder.files.find? fun file => file.1 == location with
  | some (_, bytes) => .ok (.file bytes)
  | none =>
    if location = [] ∨ location ∈ folder.folders then .ok (.folder location)
    else .error .notFound

/-- Goes one component further. -/
def enter (folder : Folder) (place : Place) (name : List Char) : Except IoKind Place :=
  match place with
  | .file _ => .error .notADirectory
  | .outside =>
    if !Path.leads name || name == ['.', '.'] then .ok .outside
    else if longestName < byteCount name then .error .invalidFilename
    else .error .notFound
  | .folder location =>
    if !Path.leads name then .ok place
    else if name = ['.', '.'] then
      match location with
      | [] => .ok .outside
      | _ :: parent => folder.find? parent
    else if longestName < byteCount name then .error .invalidFilename
    else folder.find? (name :: location)

/-- A path can be followed at all. -/
def checkPath (path : List Char) : Except IoFailure Unit :=
  if '\x00' ∈ path then
    .error ⟨.invalidInput, some "file name contained an unexpected NUL byte"⟩
  else if path.isEmpty then .error ⟨.notFound, none⟩
  else if longestPath < byteCount path then .error ⟨.invalidFilename, none⟩
  else .ok ()

/-- The place that the components of a path lead to. -/
def follow (folder : Folder) (path : List Char) (names : List (List Char)) :
    Except IoFailure Place :=
  let start : Place := if path.head? = some '/' then .outside else .folder []
  match names.foldlM folder.enter start with
  | .ok place => .ok place
  | .error kind => .error ⟨kind, none⟩

def place? (folder : Folder) (path : List Char) : Except IoFailure Place :=
  match checkPath path with
  | .error failure => .error failure
  | .ok () => folder.follow path (Text.split ['/'] path)

/-! ### Files -/

/-- Where a file of a name in a place would be. -/
def locate (folder : Folder) (place : Place) (name : List Char) : Except IoKind Location :=
  match place with
  | .file _ => .error .notADirectory
  | .outside =>
    if !Path.leads name || name == ['.', '.'] then .error .isADirectory
    else if longestName < byteCount name then .error .invalidFilename
    else .error .notFound
  | .folder location =>
    if !Path.leads name || name == ['.', '.'] then .error .isADirectory
    else if longestName < byteCount name then .error .invalidFilename
    else if name :: location ∈ folder.folders then .error .isADirectory
    else .ok (name :: location)

/-- Where a file at a path would be.  What leads to it has to be a folder, and a path
    with a slash at its end names a folder. -/
def location? (folder : Folder) (path : List Char) : Except IoFailure Location :=
  match checkPath path with
  | .error failure => .error failure
  | .ok () =>
    match (Text.split ['/'] path).reverse.dropWhile List.isEmpty with
    | [] => .error ⟨.isADirectory, none⟩
    | name :: parents =>
      match folder.follow path parents.reverse with
      | .error failure => .error failure
      | .ok place =>
        match folder.locate place (if path.getLast? = some '/' then [] else name) with
        | .error kind => .error ⟨kind, none⟩
        | .ok location => .ok location

/-- **The folder with a file at a path**, in place of the one that may be there. -/
def write (folder : Folder) (path : List Char) (bytes : List UInt8) :
    Except IoFailure Folder :=
  (folder.location? path).map fun location =>
    { folder with files := (location, bytes) :: folder.files }

/-- The bytes at a path. -/
def source? (folder : Folder) (path : String) : Except IoFailure Source :=
  (folder.place? path.toList).map fun
    | .file bytes => .ofBytes bytes
    | .folder _ | .outside => [.failure ⟨.isADirectory, none⟩]

/-- The text at a path, which has to be in UTF-8. -/
def text? (folder : Folder) (path : String) : Except IoFailure String :=
  match folder.place? path.toList with
  | .error failure => .error failure
  | .ok (.file bytes) =>
    match String.fromUTF8? ⟨bytes.toArray⟩ with
    | some text => .ok text
    | none => .error ⟨.invalidData, some "stream did not contain valid UTF-8"⟩
  | .ok _ => .error ⟨.isADirectory, none⟩

/-! ### Conversions -/

def settings? (folder : Folder) (path : String) : Except Failure Settings :=
  match folder.text? path with
  | .error failure => .error (.io failure)
  | .ok text => Settings.ofText text.toList

variable [MultibyteCodecs]

def wrap (folder : Folder) (conversion : Conversion) (path : String) : Except Failure Assembly :=
  match folder.source? path with
  | .error failure => .error (.io failure)
  | .ok source => conversion.wrap source path

end Folder

end FlatFile
