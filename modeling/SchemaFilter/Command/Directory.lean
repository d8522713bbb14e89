import SchemaFilter.Command.Inputs
import SchemaFilter.Text.Split

/-!
# Directories in memory

* `Directory` — files and directories by their names;
* `Directory.readFile` — the bytes of the file with a path;
* `Directory.inputs` — a directory, and standard input, to read from.
-/

namespace SchemaFilter

/-- What a name in a directory stands for. -/
inductive DirectoryEntry where
  | file (content : Bytes)
  | directory
  deriving DecidableEq, Repr

/-- A directory: what it holds, by paths from there.  Paths are lists of names. -/
structure Directory where
  entries : List (List Bytes × DirectoryEntry)
  deriving DecidableEq, Repr

namespace Directory

/-- The greatest number of bytes in a path. -/
def maxPath : Nat := 4095

/-- The greatest number of bytes in a name. -/
def maxName : Nat := 255

/-- The byte between the names of a path. -/
def slash : UInt8 := '/'.toUInt8

/-- The name that stands for a directory itself. -/
def selfName : Bytes := .ofString "."

/-- The name that stands for the directory around one. -/
def parentName : Bytes := .ofString ".."

/-- What stands at a path of names.  What has something below it is a directory. -/
def entry? (directory : Directory) (path : List Bytes) : Option DirectoryEntry :=
  match directory.entries.find? (·.1 = path) with
  | some (_, entry) => some entry
  | none =>
    if directory.entries.any (path.isPrefixOf ·.1) then some .directory else none

/-- Follows names from a directory, which is given by its path, or is outside, where nothing is
    known but directories that lead there. -/
def follow (directory : Directory) : (place : Option (List Bytes)) → List Bytes →
    Except SystemError Bytes
  | _, [] => .error .isADirectory
  | place, name :: names =>
    if name = [] ∨ name = selfName then follow directory place names
    else if name = parentName then
      match place with
      | none | some [] => follow directory none names
      | some (p :: ps) => follow directory (some (p :: ps).dropLast) names
    else if maxName < name.length then .error .nameTooLong
    else
      match place.bind fun path => directory.entry? (path ++ [name]) with
      | none => .error .notFound
      | some .directory => follow directory (place.map (· ++ [name])) names
      | some (.file content) => if names = [] then .ok content else .error .notADirectory

/-- The bytes of the file with a path. -/
def readFile (directory : Directory) (path : Bytes) : Except SystemError Bytes :=
  if path.contains 0 then .error .nulInName
  else if path = [] then .error .notFound
  else if maxPath < path.length then .error .nameTooLong
  else
    let start := if path.head? = some slash then none else some []
    directory.follow start (piecesAt slash path)

/-- The names in a path of an entry. -/
def namesOf (path : Bytes) : List Bytes :=
  (piecesAt slash path).filter fun name => name ≠ [] && name ≠ selfName

/-- The directory with some entries. -/
def ofList (entries : List (Bytes × DirectoryEntry)) : Directory :=
  ⟨entries.map fun (path, entry) => (namesOf path, entry)⟩

/-- A directory, and standard input, to read from. -/
def inputs (directory : Directory) (standardInput : Except SystemError Bytes) : Inputs :=
  { file := directory.readFile, standardInput }

end Directory

end SchemaFilter
