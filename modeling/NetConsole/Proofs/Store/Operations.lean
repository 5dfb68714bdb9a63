import NetConsole.Proofs.Store.Directory
import NetConsole.Proofs.Store.Changes

/-!
# Operations, step by step

An operation on an open store is made of steps, and what a step did to the store and its files stays
if a later one fails. Step by step an operation comes to what the functions on stores answer and
leave, unless the program breaks off, and with it the store.
-/

set_option autoImplicit false

namespace NetConsole.Store

open Stepwise

/-! ## Steps -/

/-- A step on a store and its files. It changes them even if it fails. -/
abbrev Step (α : Type) := ExceptT Error (StateM (Store × Files)) α

namespace Step

/-- The collection with a name, which must be there. -/
def held (name : String) : Step Collection := do
  let (store, _) ← get
  liftM (store.collection name)

/-- Puts a collection in its place. -/
def keep (name : String) (collection : Collection) : Step Unit :=
  modify fun (store, files) => (store.put name collection, files)

def create (name : String) : Step Unit := do
  liftM (checkName name)
  let (store, _) ← get
  if store.contains name then throw (.collectionExists name)
  else keep name .empty

/-- Takes a collection out of the store and then removes its file. -/
def drop (name : String) : Step Unit := do
  let (store, files) ← get
  if !store.contains name then throw (.noSuchCollection name)
  else
    set (store.without name, files)
    match store.root with
    | none => return ()
    | some root =>
        match files.remove (Path.ofText (filePath root name)) with
        | some files => set (store.without name, files)
        | none => throw (.files (filePath root name))

def index (name : String) (fields : List String) : Step Unit := do
  let collection ← held name
  keep name (fields.foldl Collection.addIndex collection)

def insert (name : String) (document : Json) : Step DocumentId := do
  let collection ← held name
  let (id, collection) ← liftM (collection.insert document)
  keep name collection
  return id

def read (name : String) (id : DocumentId) : Step Json := do
  let collection ← held name
  match collection.get? id with
  | some document => return document
  | none => throw (.noSuchDocument name id)

/-- Adds a document to a collection unless its key is there already. -/
def upsertOne (name field : String) (report : Report) (record : String × Json) : Step Report := do
  let collection ← held name
  let (report, collection) ← liftM (Store.upsertOne field (report, collection) record)
  keep name collection
  return report

/-- Makes the collection, then the index, and then adds one document after the other. -/
def upsert (name field : String) (records : List (String × Json)) : Step Report := do
  liftM (checkName name)
  let (store, _) ← get
  keep name ((store.collection? name).getD .empty)
  let collection ← held name
  keep name (collection.addIndex field)
  records.foldlM (upsertOne name field) ⟨0, 0⟩

end Step

/-! ## Operations -/

/-- An operation on the collection with a name. Records come each with its key. -/
inductive Operation where
  | create
  | drop
  | index (fields : List String)
  | insert (document : Json)
  | read (id : DocumentId)
  | documents
  | size
  | query (field : String) (value : Json)
  | upsert (field : String) (records : List (String × Json))

/-- What is answered to an operation that succeeds. -/
inductive Reply where
  | done
  | id (id : DocumentId)
  | document (document : Json)
  | documents (documents : List (DocumentId × Json))
  | size (size : Nat)
  | ids (ids : List DocumentId)
  | report (report : Report)

namespace Operation

/-- Whether an operation makes the collection. All others need one that is there. -/
def makes : Operation → Bool
  | create | upsert _ _ => true
  | _ => false

/-- The steps of an operation. -/
def steps (name : String) : Operation → Step Reply
  | create => do
      Step.create name
      return .done
  | drop => do
      Step.drop name
      return .done
  | index fields => do
      Step.index name fields
      return .done
  | insert document => return .id (← Step.insert name document)
  | read id => return .document (← Step.read name id)
  | documents => return .documents (← Step.held name).documents
  | size => return .size (← Step.held name).size
  | query field value => return .ids ((← Step.held name).find field (keyOf value))
  | upsert field records => return .report (← Step.upsert name field records)

/-- What becomes of a store and its files when an operation has this result. -/
def settled (state : Store × Files) :
    Except Error (Reply × Store) → Except Error Reply × Store × Files
  | .ok (reply, store) => (.ok reply, store, state.2)
  | .error cause => (.error cause, state)

/-- What an operation answers, and the store and the files after it. -/
def perform (name : String) (operation : Operation) (state : Store × Files) :
    Except Error Reply × Store × Files :=
  let (store, files) := state
  match operation with
  | create => settled state ((store.create name).map fun store => (.done, store))
  | drop =>
      let (store, files, result) := store.drop files name
      (result.map fun _ => .done, store, files)
  | index fields => settled state ((store.index name fields).map fun store => (.done, store))
  | insert document =>
      settled state ((store.insert name document).map fun (id, store) => (.id id, store))
  | read id => settled state ((store.read name id).map fun document => (.document document, store))
  | documents =>
      settled state ((store.documents name).map fun documents => (.documents documents, store))
  | size => settled state ((store.size name).map fun size => (.size size, store))
  | query field value =>
      settled state ((store.query name field value).map fun ids => (.ids ids, store))
  | upsert field records =>
      settled state
        ((store.upsert name field records).map fun (report, store) => (.report report, store))

end Operation

/-! ## Steps and operations -/

theorem collection_put (store : Store) (name : String) (collection : Collection) :
    (store.put name collection).collection name = .ok collection := by
  have found : (putCollection name collection store.collections).find? (·.1 == name) =
      some (name, collection) := by
    induction store.collections with
    | nil => simp [putCollection]
    | cons entry rest ih =>
        obtain ⟨other, held⟩ := entry
        rw [putCollection]
        split
        case isTrue => simp
        case isFalse =>
          split
          case isTrue after =>
            rw [List.find?_cons_of_neg (by simpa using after.ne)]
            exact ih
          case isFalse => simp
  rw [Store.collection, collection?, put, found]
  rfl

theorem run_held (name : String) (state : Store × Files) :
    (Step.held name).run state = (state.1.collection name, state) := rfl

theorem run_keep (name : String) (collection : Collection) (store : Store) (files : Files) :
    (Step.keep name collection).run (store, files) =
      (.ok (), store.put name collection, files) := rfl

/-- Two ends are the same, or are those of programs that broke off, and it does not matter any more
what they did to the store. -/
def Agrees {α : Type} (one two : Except Error α × Store × Files) : Prop :=
  one = two ∨ one.1 = .error .overflow ∧ two.1 = .error .overflow

/-- What becomes of a store and its files when a collection is put in its place, if it can be. -/
def placed {α : Type} (name : String) (store : Store) (files : Files) :
    Except Error (α × Collection) → Except Error α × Store × Files
  | .ok (value, collection) => (.ok value, store.put name collection, files)
  | .error cause => (.error cause, store, files)

theorem run_upsertOne (name field : String) (report : Report) (record : String × Json)
    (store : Store) (files : Files) (collection : Collection) :
    (Step.upsertOne name field report record).run (store.put name collection, files) =
      placed name (store.put name collection) files
        (upsertOne field (report, collection) record) := by
  have there : (Step.held name).run (store.put name collection, files) =
      (.ok collection, store.put name collection, files) := by
    rw [run_held, collection_put]
  rw [Step.upsertOne, run_bind_ok there, run_bind, run_liftM]
  cases upsertOne field (report, collection) record <;> rfl

theorem upsertOne_eq_error {field : String} {state : Report × Collection} {record : String × Json}
    {cause : Error} (failed : upsertOne field state record = .error cause) : cause = .overflow := by
  rw [(counting_upsertOne field).step_eq] at failed
  split at failed
  case isTrue => cases failed
  case isFalse =>
    cases failed
    rfl

/-- Records are added one after the other to the collection as it is by then. -/
theorem run_foldlM_upsertOne (name field : String) (records : List (String × Json))
    (report : Report) (store : Store) (files : Files) (collection : Collection) :
    Agrees
      ((records.foldlM (Step.upsertOne name field) report).run (store.put name collection, files))
      (placed name store files (records.foldlM (upsertOne field) (report, collection))) := by
  induction records generalizing report collection with
  | nil => exact .inl rfl
  | cons record rest ih =>
      have first := run_upsertOne name field report record store files collection
      rw [List.foldlM_cons, List.foldlM_cons]
      cases added : upsertOne field (report, collection) record with
      | error cause =>
          obtain rfl := upsertOne_eq_error added
          rw [added] at first
          rw [run_bind_error first]
          exact .inr ⟨rfl, rfl⟩
      | ok state =>
          obtain ⟨after, changed⟩ := state
          rw [added, placed, put_put] at first
          rw [run_bind_ok first]
          exact ih after changed

theorem run_create (name : String) (store : Store) (files : Files) :
    (Step.create name).run (store, files) =
      match store.create name with
      | .ok changed => (.ok (), changed, files)
      | .error cause => (.error cause, store, files) := by
  rw [Step.create, Store.create, run_bind, run_liftM]
  cases checkName name with
  | error cause => rfl
  | ok valid =>
      dsimp only
      rw [run_bind, run_get]
      dsimp only
      cases store.contains name <;> rfl

theorem run_drop (name : String) (store : Store) (files : Files) :
    (Step.drop name).run (store, files) =
      ((store.drop files name).2.2, (store.drop files name).1, (store.drop files name).2.1) := by
  rw [Step.drop, Store.drop, run_bind, run_get]
  dsimp only
  cases store.contains name with
  | false => rfl
  | true =>
      have kept : (store.without name).root = store.root := rfl
      rw [kept]
      cases store.root with
      | none => rfl
      | some root =>
          dsimp only
          cases files.remove (Path.ofText (filePath root name)) with
          | none => simp; rfl
          | some after => simp; rfl

theorem run_upsert (name field : String) (records : List (String × Json)) (store : Store)
    (files : Files) : Agrees ((Step.upsert name field records).run (store, files))
      (match store.upsert name field records with
      | .ok (report, changed) => (.ok report, changed, files)
      | .error cause => (.error cause, store, files)) := by
  rw [Step.upsert, Store.upsert, run_bind, run_liftM]
  cases checkName name with
  | error cause => exact .inl rfl
  | ok valid =>
      dsimp only
      rw [run_bind, run_get]
      dsimp only
      generalize (store.collection? name).getD .empty = collection
      have made := run_keep name collection store files
      have there := run_held name (store.put name collection, files)
      rw [collection_put] at there
      have indexed := run_keep name (collection.addIndex field) (store.put name collection) files
      rw [put_put] at indexed
      rw [run_bind_ok made, run_bind_ok there, run_bind_ok indexed]
      have added := run_foldlM_upsertOne name field records ⟨0, 0⟩ store files
        (collection.addIndex field)
      dsimp only [bind, Except.bind] at added ⊢
      cases folded : records.foldlM (upsertOne field) (⟨0, 0⟩, collection.addIndex field) with
      | error cause =>
          rw [folded] at added
          exact added
      | ok state =>
          rw [folded] at added
          exact added

theorem Agrees.reply {α : Type} {op : Step α} {state : Store × Files}
    {two : Except Error α × Store × Files} (agrees : Agrees (op.run state) two)
    (answer : α → Reply) :
    Agrees ((do return answer (← op) : Step Reply).run state) (two.1.map answer, two.2) := by
  rw [run_bind]
  rcases ran : op.run state with ⟨result, after⟩
  rw [ran] at agrees
  rcases agrees with rfl | ⟨broken, brokenToo⟩
  · refine .inl ?_
    cases result <;> rfl
  · dsimp only at broken
    rw [broken, brokenToo]
    exact .inr ⟨rfl, rfl⟩

/-- The steps of an operation come to what it answers and leaves. -/
theorem Operation.run_steps (name : String) (operation : Operation) (state : Store × Files) :
    Agrees ((operation.steps name).run state) (operation.perform name state) := by
  obtain ⟨store, files⟩ := state
  cases operation with
  | upsert field records =>
      have added := (run_upsert name field records store files).reply Reply.report
      rw [perform]
      cases upserted : store.upsert name field records <;> (rw [upserted] at added; exact added)
  | create =>
      refine .inl ?_
      rw [steps, perform, run_bind, run_create]
      cases store.create name <;> rfl
  | drop =>
      refine .inl ?_
      rw [steps, perform, run_bind, run_drop]
      rcases store.drop files name with ⟨changed, after, cause | done⟩ <;> rfl
  | read id =>
      refine .inl ?_
      rw [steps, perform, run_bind, Step.read, run_bind, run_held, Store.read]
      dsimp only
      cases store.collection name with
      | error cause => rfl
      | ok collection =>
          dsimp only [bind, Except.bind]
          cases collection.get? id <;> rfl
  | insert document =>
      refine .inl ?_
      rw [steps, perform, run_bind, Step.insert, run_bind, run_held, Store.insert]
      cases store.collection name with
      | error cause => rfl
      | ok collection =>
          dsimp only
          rw [run_bind, run_liftM]
          dsimp only [bind, Except.bind]
          cases collection.insert document <;> rfl
  | index fields =>
      refine .inl ?_
      rw [steps, perform, run_bind, Step.index, run_bind, run_held, Store.index]
      cases store.collection name <;> rfl
  | documents =>
      refine .inl ?_
      rw [steps, perform, run_bind, run_held, Store.documents]
      cases store.collection name <;> rfl
  | size =>
      refine .inl ?_
      rw [steps, perform, run_bind, run_held, Store.size]
      cases store.collection name <;> rfl
  | query field value =>
      refine .inl ?_
      rw [steps, perform, run_bind, run_held, Store.query]
      cases store.collection name <;> rfl

end NetConsole.Store
