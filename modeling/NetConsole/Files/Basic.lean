import NetConsole.Files.Path

/-!
# Trees of files

A tree of files is a value: what is at each path. Every operation that changes files yields the
tree after it, or nothing if it fails.
-/

set_option autoImplicit false

namespace NetConsole

inductive Entry where
  | directory
  | text (content : String)
  deriving DecidableEq, Repr, Inhabited

/-- The entries of a tree of files. The root is always a directory; the first entry for a path is
the one that counts. -/
structure Files where
  entries : List (Path × Entry)
  deriving DecidableEq, Repr, Inhabited

namespace Files

def empty : Files := ⟨[]⟩

def at? (files : Files) (path : Path) : Option Entry :=
  if path = [] then some .directory
  else (files.entries.find? (·.1 == path)).map (·.2)

def exists? (files : Files) (path : Path) : Bool := (files.at? path).isSome

def erase (files : Files) (path : Path) : Files :=
  ⟨files.entries.filter (·.1 != path)⟩

/-- The tree with an entry at a path in place of what was there. -/
def put (files : Files) (path : Path) (entry : Entry) : Files :=
  ⟨(files.erase path).entries ++ [(path, entry)]⟩

def read? (files : Files) (path : Path) : Option String :=
  match files.at? path with
  | some (.text content) => some content
  | _ => none

/-- Makes the directories along a path, from a place whose directory is there. -/
def makeDirectories (files : Files) (place : Path) : List String → Option Files
  | [] => some files
  | name :: rest =>
      let next := place ++ [name]
      match files.at? next with
      | some .directory => makeDirectories files next rest
      | some (.text _) => none
      | none =>
          if Path.isName name then makeDirectories (files.put next .directory) next rest else none

/-- Makes the directory at a path and all those above it that are missing. -/
def makeDirectory (files : Files) (path : Path) : Option Files := files.makeDirectories [] path

/-- Writes a file into a directory that is there, in place of any file of that name. -/
def write (files : Files) (path : Path) (content : String) : Option Files :=
  match path.getLast? with
  | none => none
  | some name =>
      if files.at? path.dropLast = some .directory ∧ files.at? path ≠ some .directory ∧
          Path.isName name then
        some (files.put path (.text content))
      else none

/-- Removes the file at a path; there need not be one. -/
def remove (files : Files) (path : Path) : Option Files :=
  match files.at? path with
  | some .directory => none
  | _ => some (files.erase path)

/-- Whether a path leads to a place directly in a directory. -/
def isIn (directory path : Path) : Bool := path != [] && path.dropLast == directory

/-- A name put at its place among ascending names. -/
def insertName (name : String) : List String → List String
  | [] => [name]
  | other :: rest =>
      if name < other then name :: other :: rest
      else if other < name then other :: insertName name rest
      else other :: rest

/-- Names in ascending order, each once. -/
def sortNames (names : List String) : List String :=
  names.foldl (fun sorted name => insertName name sorted) []

/-- The names in the directory at a path, ascending. -/
def names (files : Files) (path : Path) : List String :=
  sortNames ((files.entries.filter (isIn path ·.1)).filterMap (·.1.getLast?))

/-- The tree with a file at a path and the directories above it. -/
def place (files : Files) (path : Path) (entry : Entry) : Files :=
  ((files.makeDirectory path.dropLast).getD files).put path entry

/-- The files below a path: the rest of the path of each, with its text. -/
def textsBelow (files : Files) (path : Path) : List (Path × String) :=
  files.entries.filterMap fun (place, entry) =>
    match entry with
    | .text content =>
        if path.isPrefixOf place then some (place.drop path.length, content) else none
    | .directory => none

end Files

end NetConsole
