import NetConsole.Store.Basic

/-!
# Stores in files

A store with a root is loaded from the files in its directory and written back as a whole. Files
there whose names are not those of collections are left alone.
-/

set_option autoImplicit false

namespace NetConsole.Store

def fileEnding : String := ".json"

def filePath (root name : String) : String := Path.joinText root (name ++ fileEnding)

/-- The name of the collection that a file is for. -/
def collectionOfFile? (fileName : String) : Option String :=
  let count := fileName.length - fileEnding.length
  let name := String.ofList (fileName.toList.take count)
  if fileName.endsWith fileEnding ∧ isValidName name then some name else none

/-- Loads the collection in a file. -/
def load (files : Files) (root name : String) : Except Error Collection :=
  let path := filePath root name
  match files.read? (Path.ofText path) with
  | none => .error (.files path)
  | some text =>
      match Collection.ofText text with
      | .ok collection => collection.counted
      | .error reason => .error (.corrupt path reason)

/-- Loads the collections with some names into a store, one after the other. -/
def loadAll (files : Files) (root : String) (store : Store) : List String → Except Error Store
  | [] => .ok store
  | name :: rest => do
      let collection ← load files root name
      loadAll files root (store.put name collection) rest

/-- The names of the collections that have a file in a directory. -/
def namesIn (files : Files) (root : String) : List String :=
  (files.names (Path.ofText root)).filterMap collectionOfFile?

/-- The store in a directory, which is made if it is missing. The files are left as they are. The
empty text names no directory. -/
def open? (files : Files) (root : String) : Files × Except Error Store :=
  if root = "" then (files, .error (.files root))
  else
    match files.makeDirectory (Path.ofText root) with
    | none => (files, .error (.files root))
    | some files => (files, loadAll files root ⟨some root, []⟩ (namesIn files root))

/-- Writes collections into a directory, one after the other, up to the first that fails. -/
def writeAll (root : String) (files : Files) :
    List (String × Collection) → Files × Except Error Unit
  | [] => (files, .ok ())
  | (name, collection) :: rest =>
      let path := filePath root name
      match files.write (Path.ofText path) collection.toText with
      | none => (files, .error (.files path))
      | some files => writeAll root files rest

/-- Writes every collection of a store with a root into its file. -/
def flush (store : Store) (files : Files) : Files × Except Error Unit :=
  match store.root with
  | none => (files, .ok ())
  | some root => writeAll root files store.collections

/-- Drops a collection and removes its file. The collection is gone even if its file stays. -/
def drop (store : Store) (files : Files) (name : String) : Store × Files × Except Error Unit :=
  if !store.contains name then (store, files, .error (.noSuchCollection name))
  else
    let store := store.without name
    match store.root with
    | none => (store, files, .ok ())
    | some root =>
        match files.remove (Path.ofText (filePath root name)) with
        | some files => (store, files, .ok ())
        | none => (store, files, .error (.files (filePath root name)))

/-- Drops collections one after the other, up to the first that fails. -/
def dropAll (store : Store) (files : Files) : List String → Store × Files × Except Error Unit
  | [] => (store, files, .ok ())
  | name :: rest =>
      match store.drop files name with
      | (store, files, .ok ()) => dropAll store files rest
      | failed => failed

def clear (store : Store) (files : Files) : Store × Files × Except Error Unit :=
  store.dropAll files store.names

end NetConsole.Store
