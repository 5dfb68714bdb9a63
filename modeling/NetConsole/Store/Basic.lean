import NetConsole.Files.Basic
import NetConsole.Store.Collection
import NetConsole.Store.Error

/-!
# Stores

A store is a set of collections under valid names, in ascending order of names. A store with a root
has a directory in which each collection has a file; without one it lives in memory only. An
operation that does not succeed changes nothing.
-/

set_option autoImplicit false

namespace NetConsole

open Store

/-- A store: the path of its directory, if it has one, and its collections by name. -/
structure Store where
  root : Option String
  collections : List (String × Collection)
  deriving DecidableEq, Repr, Inhabited

namespace Store

/-- A store without collections and without a directory. -/
def inMemory : Store := ⟨none, []⟩

/-! ## Names -/

/-- Whether a character may stand in the name of a collection. -/
def isNameChar (c : Char) : Bool := c.isAlphanum || c == '-' || c == '_'

/-- Whether a name can be that of a collection, and so of its file. -/
def isValidName (name : String) : Bool := name != "" && name.toList.all isNameChar

/-- Refuses a name that cannot be that of a collection. -/
def checkName (name : String) : Except Error Unit :=
  if isValidName name then .ok () else .error (.invalidName name)

/-! ## Collections by name -/

/-- A collection put at its place among collections with ascending names. -/
def putCollection (name : String) (collection : Collection) :
    List (String × Collection) → List (String × Collection)
  | [] => [(name, collection)]
  | (other, c) :: rest =>
      if name < other then (name, collection) :: (other, c) :: rest
      else if other < name then (other, c) :: putCollection name collection rest
      else (name, collection) :: rest

def put (store : Store) (name : String) (collection : Collection) : Store :=
  { store with collections := putCollection name collection store.collections }

def collection? (store : Store) (name : String) : Option Collection :=
  (store.collections.find? (·.1 == name)).map (·.2)

def contains (store : Store) (name : String) : Bool := (store.collection? name).isSome

def names (store : Store) : List String := store.collections.map (·.1)

/-- The collection with a name, which must be there. -/
def collection (store : Store) (name : String) : Except Error Collection :=
  match store.collection? name with
  | some collection => .ok collection
  | none => .error (.noSuchCollection name)

/-- The store with a new collection. -/
def create (store : Store) (name : String) : Except Error Store := do
  checkName name
  if store.contains name then throw (.collectionExists name)
  return store.put name .empty

def without (store : Store) (name : String) : Store :=
  { store with collections := store.collections.filter (·.1 != name) }

/-- The store with indexes for some fields of a collection. -/
def index (store : Store) (name : String) (fields : List String) : Except Error Store := do
  let collection ← store.collection name
  return store.put name (fields.foldl Collection.addIndex collection)

/-! ## Documents -/

/-- Adds a document to a collection. -/
def insert (store : Store) (name : String) (document : Json) :
    Except Error (DocumentId × Store) := do
  let collection ← store.collection name
  let (id, collection) ← collection.insert document
  return (id, store.put name collection)

def read (store : Store) (name : String) (id : DocumentId) : Except Error Json := do
  let collection ← store.collection name
  match collection.get? id with
  | some document => return document
  | none => throw (.noSuchDocument name id)

/-- The documents of a collection under ascending numbers. -/
def documents (store : Store) (name : String) : Except Error (List (DocumentId × Json)) := do
  let collection ← store.collection name
  return collection.documents

def size (store : Store) (name : String) : Except Error Nat := do
  let collection ← store.collection name
  return collection.size

/-- The numbers of the documents of a collection in which a field has a value. -/
def query (store : Store) (name field : String) (value : Json) :
    Except Error (List DocumentId) := do
  let collection ← store.collection name
  return collection.find field (keyOf value)

/-- What became of records: how many were added, and how many had been there. -/
structure Report where
  inserted : Nat
  existing : Nat
  deriving DecidableEq, Repr, Inhabited

/-- Adds a document unless its key is there already. -/
def upsertOne (field : String) (state : Report × Collection) (record : String × Json) :
    Except Error (Report × Collection) := do
  let (report, collection) := state
  let (key, document) := record
  if (collection.find field key).isEmpty then
    let (_, collection) ← collection.insert document
    return ({ report with inserted := report.inserted + 1 }, collection)
  else return ({ report with existing := report.existing + 1 }, collection)

/-- Adds those of some documents, each with its key, whose key is not there already, one after the
other. The collection and the index of the field are made if they are missing. -/
def upsert (store : Store) (name field : String) (records : List (String × Json)) :
    Except Error (Report × Store) := do
  checkName name
  let collection := ((store.collection? name).getD .empty).addIndex field
  let (report, collection) ← records.foldlM (upsertOne field) (⟨0, 0⟩, collection)
  return (report, store.put name collection)

/-- A record as the document that a store keeps of it. -/
def documentOf {α : Type} [Record α] (record : α) : Json := (Record.toJson record).sorted

end Store

end NetConsole
