import NetConsole.Decimal.Digits
import NetConsole.Decimal.Word
import NetConsole.Json.Record
import NetConsole.Store.Error

/-!
# Collections of documents

A collection holds documents under ascending numbers, and for some fields an index from the key of
the field's value to the numbers of the documents that have it. A field is looked up through its
index if there is one and by a scan if there is none; both answers are the same.

Numbers are counted in 64-bit words. A collection always has the number that comes next, so one
whose last document has the last word cannot be made: the addition overflows, and the program
breaks off.
-/

set_option autoImplicit false

namespace NetConsole.Store

open Json

/-- The number of a document, a 64-bit word. -/
abbrev DocumentId := Nat

/-- The key of a value in an index: a string is its own key, any other value has its text. -/
def keyOf : Json → String
  | .string s => s
  | other => other.compact

/-- The key of a document's field; nothing if it is no object or has no such field. -/
def fieldKey? (field : String) (document : Json) : Option String :=
  (document.get? field).map keyOf

/-- An index: for each key the ascending numbers of the documents with it. -/
abbrev Index := List (String × List DocumentId)

namespace Index

/-- The numbers under a key. -/
def find (index : Index) (key : String) : List DocumentId :=
  ((index.find? (·.1 == key)).map (·.2)).getD []

/-- A number put at its place among ascending numbers. -/
def insertId (id : DocumentId) : List DocumentId → List DocumentId
  | [] => [id]
  | other :: rest =>
      if id < other then id :: other :: rest
      else if other < id then other :: insertId id rest
      else other :: rest

/-- The index with a number added under a key. -/
def add (key : String) (id : DocumentId) : Index → Index
  | [] => [(key, [id])]
  | (k, ids) :: rest =>
      if k = key then (k, insertId id ids) :: rest else (k, ids) :: add key id rest

/-- The index of a field over some documents. -/
def ofDocuments (field : String) (documents : List (DocumentId × Json)) : Index :=
  documents.foldl (fun index (id, document) =>
    match fieldKey? field document with
    | some key => index.add key id
    | none => index) []

end Index

/-- A collection: its documents under ascending numbers, its indexes by field, and the number that
the next document gets. -/
structure Collection where
  documents : List (DocumentId × Json)
  indexes : List (String × Index)
  nextId : DocumentId
  deriving DecidableEq, Repr, Inhabited

namespace Collection

/-- A collection without documents; numbers start from one. -/
def empty : Collection := ⟨[], [], 1⟩

def isIndexed (collection : Collection) (field : String) : Bool :=
  collection.indexes.any (·.1 == field)

def indexedFields (collection : Collection) : List String := collection.indexes.map (·.1)

/-- The collection with an index for a field. -/
def addIndex (collection : Collection) (field : String) : Collection :=
  if collection.isIndexed field then collection
  else
    { collection with
      indexes := collection.indexes ++ [(field, .ofDocuments field collection.documents)] }

/-- The collection with a document under the number that is next. -/
def added (collection : Collection) (document : Json) : Collection :=
  let id := collection.nextId
  { documents := insertNumbered id document collection.documents
    indexes := collection.indexes.map fun (field, index) =>
      match fieldKey? field document with
      | some key => (field, index.add key id)
      | none => (field, index)
    nextId := id + 1 }

/-- A collection, if the number that comes next in it is a word. -/
def counted (collection : Collection) : Except Error Collection :=
  if collection.nextId < Decimal.words64 then .ok collection else .error .overflow

/-- Adds a document, and yields the number it got. -/
def insert (collection : Collection) (document : Json) :
    Except Error (DocumentId × Collection) := do
  let after ← (collection.added document).counted
  return (collection.nextId, after)

def get? (collection : Collection) (id : DocumentId) : Option Json :=
  (collection.documents.find? (·.1 == id)).map (·.2)

/-- The numbers of the documents that have a key in a field, by looking at each. -/
def scan (collection : Collection) (field key : String) : List DocumentId :=
  (collection.documents.filter (fieldKey? field ·.2 == some key)).map (·.1)

/-- The numbers of the documents that have a key in a field, ascending. -/
def find (collection : Collection) (field key : String) : List DocumentId :=
  match collection.indexes.find? (·.1 == field) with
  | some (_, index) => index.find key
  | none => collection.scan field key

def size (collection : Collection) : Nat := collection.documents.length

/-! ## Files -/

/-- The shape of a collection in a file: the indexed fields and the documents by number. -/
def shape : Shape :=
  .record "CollectionFile" [.list "indexes" .text, .mk "documents" .numbered (.filled (.object []))]
    false

/-- The collection with indexed fields and documents. The next number is the one after the last. -/
def ofParts (fields : List String) (documents : List (DocumentId × Json)) : Collection :=
  fields.foldl addIndex
    { documents, indexes := [], nextId := (documents.getLast?.map (·.1 + 1)).getD 1 }

def ofJson (value : Json) : Collection :=
  let documents := match value.get? "documents" with
    | some (.object members) =>
        members.map fun (key, document) => ((Decimal.numberIn? 10 key.toList).getD 0, document)
    | _ => []
  ofParts ((itemsAt "indexes" value).filterMap Json.text?) documents

/-- A text put at its place among ascending texts. -/
def insertField (field : String) : List String → List String
  | [] => [field]
  | other :: rest =>
      if other < field then other :: insertField field rest else field :: other :: rest

/-- The indexed fields in ascending order. -/
def sortedFields (collection : Collection) : List String :=
  collection.indexedFields.foldl (fun sorted field => insertField field sorted) []

def toJson (collection : Collection) : Json :=
  let documents := collection.documents.map fun (id, document) => (toString id, document)
  .object
    [("indexes", .array (collection.sortedFields.map .string)), ("documents", .object documents)]

/-- The collection that the text of a file holds. -/
def ofText (text : String) : Except Reason Collection := (parseAs shape text).map ofJson

/-- The text of the file of a collection. -/
def toText (collection : Collection) : String := collection.toJson.pretty

end Collection

end NetConsole.Store
