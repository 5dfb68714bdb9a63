import NetConsole.Proofs.Store.Counting
import NetConsole.Proofs.Store.Directory

/-!
# Changes of an open store

A store that was opened goes through any number of changes, is written, and is opened again: it is
the same store as far as anybody can ask. What every change keeps is that the store has its
directory to itself, that its collections last, and that there are numbers for the documents still
to come.
-/

set_option autoImplicit false

namespace NetConsole.Store

open Json Stepwise

/-! ## Room for documents -/

/-- A collection that lasts and has numbers for some more documents. -/
structure Collection.Spacious (count : Nat) (collection : Collection) : Prop where
  lasting : collection.Lasting
  room : collection.nextId + count < Decimal.words64

namespace Collection

theorem Spacious.mono {less more : Nat} {collection : Collection} (fewer : less ≤ more)
    (spacious : collection.Spacious more) : collection.Spacious less where
  lasting := spacious.lasting
  room := Nat.lt_of_le_of_lt (Nat.add_le_add_left fewer _) spacious.room

theorem spacious_empty {count : Nat} (room : 1 + count < Decimal.words64) : empty.Spacious count where
  lasting := ⟨sound_empty, by decide, fun _ member => absurd member List.not_mem_nil⟩
  room := room

theorem Spacious.addIndex {count : Nat} {collection : Collection}
    (spacious : collection.Spacious count) (field : String) :
    (collection.addIndex field).Spacious count where
  lasting :=
    { sound := spacious.lasting.sound.addIndex field
      word := by simpa using spacious.lasting.word
      storable := by simpa using spacious.lasting.storable }
  room := by simpa using spacious.room

theorem Spacious.addIndexes {count : Nat} {collection : Collection}
    (spacious : collection.Spacious count) (fields : List String) :
    (fields.foldl Collection.addIndex collection).Spacious count := by
  induction fields generalizing collection with
  | nil => exact spacious
  | cons field rest ih => exact ih (spacious.addIndex field)

theorem Spacious.added {count : Nat} {collection : Collection}
    (spacious : collection.Spacious (count + 1)) {document : Json} (storable : Storable document) :
    (collection.added document).Spacious count := by
  have room : collection.nextId + 1 + count < Decimal.words64 := by
    rw [Nat.add_right_comm]
    exact spacious.room
  refine ⟨⟨spacious.lasting.sound.added document, ?_, fun entry member => ?_⟩, room⟩
  · exact Nat.lt_of_le_of_lt (Nat.le_add_right _ count) room
  · rw [spacious.lasting.sound.added_documents] at member
    rcases List.mem_append.mp member with before | last
    · exact spacious.lasting.storable entry before
    · rw [List.mem_singleton.mp last]
      exact storable

theorem Spacious.reloaded {count : Nat} {collection : Collection}
    (spacious : collection.Spacious count) : collection.reloaded.Spacious count where
  lasting :=
    { sound := spacious.lasting.sound.reloaded
      word := by
        rw [spacious.lasting.sound.reloaded_nextId]
        exact spacious.lasting.word
      storable := by simpa using spacious.lasting.storable }
  room := by
    rw [spacious.lasting.sound.reloaded_nextId]
    exact spacious.room

theorem Spacious.upsert {count : Nat} {collection : Collection} {field : String}
    {records : List (String × Json)} (spacious : collection.Spacious (count + records.length))
    (storable : ∀ record ∈ records, Storable record.2) (report : Report) :
    (records.foldl (considered field) (report, collection)).2.Spacious count := by
  induction records generalizing report collection with
  | nil => exact spacious
  | cons record rest ih =>
      obtain ⟨first, others⟩ := List.forall_mem_cons.mp storable
      rw [List.foldl_cons, considered]
      split
      · exact ih (spacious.added first) others _
      · exact ih (spacious.mono (Nat.le_succ _)) others _

end Collection

/-- All collections of a store have numbers for some more documents. -/
def Spacious (count : Nat) (store : Store) : Prop :=
  ∀ entry ∈ store.collections, entry.2.Spacious count

theorem Spacious.put {count : Nat} {store : Store} (spacious : store.Spacious count)
    (ascending : Ascending store.collections) {name : String} {collection : Collection}
    (own : collection.Spacious count) : (store.put name collection).Spacious count := by
  intro entry member
  rw [put_collections, Ascending.mem_put ascending] at member
  rcases member with rfl | ⟨there, -⟩
  · exact own
  · exact spacious entry there

theorem mem_of_collection? {store : Store} {name : String} {collection : Collection}
    (found : store.collection? name = some collection) : (name, collection) ∈ store.collections := by
  obtain ⟨⟨own, held⟩, located, rfl⟩ := Option.map_eq_some_iff.mp found
  obtain rfl : own = name := by simpa using List.find?_some located
  exact List.mem_of_find?_eq_some located

/-! ## Operations that succeed -/

theorem checkName_eq_ok {name : String} {done : Unit} (checked : checkName name = .ok done) :
    isValidName name = true := by
  unfold checkName at checked
  split at checked
  case isTrue valid => exact valid
  case isFalse => cases checked

theorem collection_eq_ok {store : Store} {name : String} {collection : Collection}
    (found : store.collection name = .ok collection) : store.collection? name = some collection := by
  unfold Store.collection at found
  split at found
  case h_1 held there =>
    cases found
    exact there
  case h_2 => cases found

theorem create_eq_ok {store changed : Store} {name : String}
    (made : store.create name = .ok changed) :
    isValidName name = true ∧ changed = store.put name .empty := by
  obtain ⟨_, checked, made⟩ := bind_eq_ok.mp made
  dsimp only at made
  split at made
  · cases made
  · cases made
    exact ⟨checkName_eq_ok checked, rfl⟩

theorem insert_eq_ok {store changed : Store} {name : String} {document : Json} {id : DocumentId}
    (added : store.insert name document = .ok (id, changed)) :
    ∃ collection, store.collection? name = some collection ∧ id = collection.nextId ∧
      changed = store.put name (collection.added document) := by
  obtain ⟨collection, found, added⟩ := bind_eq_ok.mp added
  rw [Collection.insert_eq] at added
  split at added
  case isTrue =>
    cases added
    exact ⟨collection, collection_eq_ok found, rfl, rfl⟩
  case isFalse => cases added

theorem index_eq_ok {store changed : Store} {name : String} {fields : List String}
    (added : store.index name fields = .ok changed) :
    ∃ collection, store.collection? name = some collection ∧
      changed = store.put name (fields.foldl Collection.addIndex collection) := by
  obtain ⟨collection, found, added⟩ := bind_eq_ok.mp added
  cases added
  exact ⟨collection, collection_eq_ok found, rfl⟩

/-- The collection that records are added to: the one under the name or a new one, with an index
for the field. -/
def upsertTarget (store : Store) (name field : String) : Collection :=
  ((store.collection? name).getD .empty).addIndex field

theorem upsert_eq_ok {store changed : Store} {name field : String}
    {records : List (String × Json)} {report : Report}
    (added : store.upsert name field records = .ok (report, changed)) :
    isValidName name = true ∧ changed =
      store.put name ((store.upsertTarget name field).upserted field records).2 := by
  obtain ⟨_, checked, added⟩ := bind_eq_ok.mp added
  obtain ⟨_, folded, added⟩ := bind_eq_ok.mp added
  obtain ⟨rfl, -⟩ := (counting_upsertOne field).foldlM_eq_ok folded
  cases added
  exact ⟨checkName_eq_ok checked, rfl⟩

theorem upsert_eq {name : String} (valid : isValidName name = true) (store : Store)
    (field : String) (records : List (String × Json)) :
    store.upsert name field records =
      let target := store.upsertTarget name field
      let added := target.upserted field records
      if Reaches target.nextId added.2.nextId then .ok (added.1, store.put name added.2)
      else .error .overflow := by
  have folded : records.foldlM (upsertOne field) (⟨0, 0⟩, store.upsertTarget name field) =
      if Reaches (store.upsertTarget name field).nextId
          ((store.upsertTarget name field).upserted field records).2.nextId then
        .ok ((store.upsertTarget name field).upserted field records)
      else .error .overflow := (counting_upsertOne field).foldlM_eq records _
  rw [upsert, checkName, if_pos valid]
  change (records.foldlM (upsertOne field) (⟨0, 0⟩, store.upsertTarget name field) >>= _) = _
  rw [folded]
  dsimp only
  split <;> rfl

/-! ## The directory of a store that changes -/

theorem Rooted.put {root : String} {store : Store} {files : Files}
    (rooted : Rooted root store files) {name : String} (valid : isValidName name = true)
    (collection : Collection) : Rooted root (store.put name collection) files where
  named := rooted.named
  located := rooted.located
  ascending := by
    rw [put_collections]
    exact rooted.ascending.put_ascending name collection
  valid entry member := by
    rw [put_collections, Ascending.mem_put rooted.ascending] at member
    rcases member with rfl | ⟨there, -⟩
    · exact valid
    · exact rooted.valid entry there
  standing := rooted.standing
  listed other otherValid found there := by
    obtain ⟨present, free⟩ := rooted.listed other otherValid found there
    refine ⟨?_, free⟩
    obtain ⟨held, member⟩ := mem_names.mp present
    by_cases same : other = name
    · subst same
      refine mem_names.mpr ⟨collection, ?_⟩
      rw [put_collections, Ascending.mem_put rooted.ascending]
      exact .inl rfl
    · refine mem_names.mpr ⟨held, ?_⟩
      rw [put_collections, Ascending.mem_put rooted.ascending]
      exact .inr ⟨member, same⟩

theorem mem_without {store : Store} {name : String} {entry : String × Collection} :
    entry ∈ (store.without name).collections ↔ entry ∈ store.collections ∧ entry.1 ≠ name := by
  simp [without]

theorem Rooted.without {root : String} {store : Store} {files : Files}
    (rooted : Rooted root store files) (name : String) :
    Rooted root (store.without name) (files.erase (place (Path.ofText root) name)) where
  named := rooted.named
  located := rooted.located
  ascending := rooted.ascending.filter _
  valid entry member := rooted.valid entry (mem_without.mp member).1
  standing := rooted.standing.erase _
  listed other otherValid found there := by
    rw [Files.at?_erase files (place_ne_nil _ _)] at there
    split at there
    case isTrue => cases there
    case isFalse elsewhere =>
      obtain ⟨present, free⟩ := rooted.listed other otherValid found there
      obtain ⟨held, member⟩ := mem_names.mp present
      refine ⟨mem_names.mpr ⟨held, mem_without.mpr ⟨member, ?_⟩⟩, free⟩
      intro same
      subst same
      exact elsewhere rfl

theorem drop_eq_error {store : Store} {name : String} (files : Files)
    (missing : store.contains name = false) :
    store.drop files name = (store, files, .error (.noSuchCollection name)) := by
  simp only [drop, missing, Bool.not_false, if_true]

theorem Rooted.drop_eq {root : String} {store : Store} {files : Files}
    (rooted : Rooted root store files) {name : String} (present : store.contains name = true) :
    store.drop files name =
      (store.without name, files.erase (place (Path.ofText root) name), .ok ()) := by
  obtain ⟨collection, found⟩ := Option.isSome_iff_exists.mp present
  have valid : isValidName name = true := rooted.valid _ (mem_of_collection? found)
  have located : (store.without name).root = some root := rooted.located
  have removed := Files.remove_eq (rooted.free valid)
  simp only [drop, present, located, ofText_filePath root valid, removed, Bool.not_true,
    Bool.false_eq_true, if_false]

/-! ## Changes -/

/-- What can be done to an open store. The values are those of any JSON text, and the store keeps
them with their members sorted; records come each with its key. -/
inductive Change where
  | create (name : String)
  | insert (name : String) (value : Json)
  | index (name : String) (fields : List String)
  | upsert (name field : String) (records : List (String × Json))
  | drop (name : String)
  | clear

namespace Change

/-- The values that a change may add. -/
def values : Change → List Json
  | .insert _ value => [value]
  | .upsert _ _ records => records.map (·.2)
  | _ => []

/-- The number of documents that a change may add. -/
def insertions (change : Change) : Nat := change.values.length

/-- What an operation makes of a store, which stays as it is if the operation is refused. -/
def settle (store : Store) : Except Error Store → Store
  | .ok changed => changed
  | .error _ => store

/-- The store and the files after a change. -/
def apply (change : Change) (state : Store × Files) : Store × Files :=
  let (store, files) := state
  match change with
  | .create name => (settle store (store.create name), files)
  | .insert name value =>
      (settle store ((store.insert name value.sorted).map (·.2)), files)
  | .index name fields => (settle store (store.index name fields), files)
  | .upsert name field records =>
      let documents := records.map fun (key, value) => (key, value.sorted)
      (settle store ((store.upsert name field documents).map (·.2)), files)
  | .drop name =>
      let (store, files, _) := store.drop files name
      (store, files)
  | .clear =>
      let (store, files, _) := store.clear files
      (store, files)

/-- The store and the files after changes, one after the other. -/
def run (changes : List Change) (state : Store × Files) : Store × Files :=
  changes.foldl (fun state change => change.apply state) state

/-- The number of documents that changes may add. -/
def total : List Change → Nat
  | [] => 0
  | change :: rest => change.insertions + total rest

/-- The values of a change can be kept in files: their numbers are integers, and they are not
nested too deep. -/
def Fits (change : Change) : Prop :=
  ∀ value ∈ change.values, IsIntegral value ∧ value.depth ≤ documentRoom

/-- What changes keep of a store and its files. -/
structure Keeps (root : String) (count : Nat) (state : Store × Files) : Prop where
  rooted : Rooted root state.1 state.2
  spacious : state.1.Spacious count
  fresh : 1 + count < Decimal.words64

theorem Keeps.mono {root : String} {less more : Nat} {state : Store × Files} (fewer : less ≤ more)
    (keeps : Keeps root more state) : Keeps root less state where
  rooted := keeps.rooted
  spacious entry member := (keeps.spacious entry member).mono fewer
  fresh := Nat.lt_of_le_of_lt (Nat.add_le_add_left fewer 1) keeps.fresh

theorem Keeps.put {root : String} {more less : Nat} {store : Store} {files : Files}
    (keeps : Keeps root more (store, files)) (fewer : less ≤ more) {name : String}
    (valid : isValidName name = true) {collection : Collection}
    (spacious : collection.Spacious less) : Keeps root less (store.put name collection, files) where
  rooted := keeps.rooted.put valid collection
  spacious := (keeps.mono fewer).spacious.put keeps.rooted.ascending spacious
  fresh := (keeps.mono fewer).fresh

theorem Keeps.without {root : String} {count : Nat} {store : Store} {files : Files}
    (keeps : Keeps root count (store, files)) (name : String) :
    Keeps root count (store.without name, files.erase (place (Path.ofText root) name)) where
  rooted := keeps.rooted.without name
  spacious entry member := keeps.spacious entry (mem_without.mp member).1
  fresh := keeps.fresh

theorem Keeps.upsertTarget {root : String} {count : Nat} {store : Store} {files : Files}
    (keeps : Keeps root count (store, files)) (name field : String) :
    (store.upsertTarget name field).Spacious count := by
  cases found : store.collection? name with
  | none =>
      rw [Store.upsertTarget, found]
      exact (Collection.spacious_empty keeps.fresh).addIndex field
  | some collection =>
      rw [Store.upsertTarget, found]
      exact (keeps.spacious _ (mem_of_collection? found)).addIndex field

theorem keeps_dropAll {root : String} {count : Nat} {store : Store} {files : Files}
    (keeps : Keeps root count (store, files)) (names : List String) :
    Keeps root count
      ((store.dropAll files names).1, (store.dropAll files names).2.1) := by
  induction names generalizing store files with
  | nil => exact keeps
  | cons name rest ih =>
      rw [dropAll]
      cases present : store.contains name with
      | false =>
          rw [drop_eq_error files present]
          exact keeps
      | true =>
          rw [keeps.rooted.drop_eq present]
          exact ih (keeps.without name)

/-- What is refused changes nothing. -/
theorem Keeps.settle {root : String} {count : Nat} {store : Store} {files : Files}
    (keeps : Keeps root count (store, files)) {result : Except Error Store}
    (settles : ∀ changed, result = .ok changed → Keeps root count (changed, files)) :
    Keeps root count (Change.settle store result, files) := by
  cases settled : result with
  | error cause => exact keeps
  | ok changed => exact settles changed settled

theorem Keeps.create {root : String} {count : Nat} {store : Store} {files : Files}
    (keeps : Keeps root count (store, files)) (name : String) :
    Keeps root count ((Change.create name).apply (store, files)) := by
  refine keeps.settle fun changed made => ?_
  obtain ⟨valid, rfl⟩ := create_eq_ok made
  exact keeps.put (Nat.le_refl count) valid (Collection.spacious_empty keeps.fresh)

theorem Keeps.insert {root : String} {count : Nat} {store : Store} {files : Files} {name : String}
    {value : Json} (keeps : Keeps root (count + 1) (store, files))
    (fits : (Change.insert name value).Fits) :
    Keeps root count ((Change.insert name value).apply (store, files)) := by
  have fewer : count ≤ count + 1 := Nat.le_succ count
  refine (keeps.mono fewer).settle fun changed settled => ?_
  obtain ⟨⟨id, _⟩, added, rfl⟩ := map_eq_ok settled
  obtain ⟨collection, found, -, rfl⟩ := insert_eq_ok added
  have member := mem_of_collection? found
  have valid : isValidName name = true := keeps.rooted.valid _ member
  obtain ⟨integral, shallow⟩ := fits value List.mem_cons_self
  exact keeps.put fewer valid
    ((keeps.spacious _ member).added (storable_sorted integral shallow))

theorem Keeps.index {root : String} {count : Nat} {store : Store} {files : Files}
    (keeps : Keeps root count (store, files)) (name : String) (fields : List String) :
    Keeps root count ((Change.index name fields).apply (store, files)) := by
  refine keeps.settle fun changed added => ?_
  obtain ⟨collection, found, rfl⟩ := index_eq_ok added
  have member := mem_of_collection? found
  have valid : isValidName name = true := keeps.rooted.valid _ member
  exact keeps.put (Nat.le_refl count) valid ((keeps.spacious _ member).addIndexes fields)

theorem Keeps.upsert {root : String} {count : Nat} {store : Store} {files : Files}
    {name field : String} {records : List (String × Json)}
    (keeps : Keeps root (count + records.length) (store, files))
    (fits : (Change.upsert name field records).Fits) :
    Keeps root count ((Change.upsert name field records).apply (store, files)) := by
  have fewer : count ≤ count + records.length := Nat.le_add_right _ _
  refine (keeps.mono fewer).settle fun changed settled => ?_
  obtain ⟨⟨report, _⟩, added, rfl⟩ := map_eq_ok settled
  obtain ⟨valid, rfl⟩ := upsert_eq_ok added
  have storable : ∀ record ∈ records.map fun (key, value) => (key, value.sorted),
      Storable record.2 := by
    intro record member
    obtain ⟨⟨key, value⟩, there, rfl⟩ := List.mem_map.mp member
    obtain ⟨integral, shallow⟩ := fits value (List.mem_map_of_mem there)
    exact storable_sorted integral shallow
  refine keeps.put fewer valid (Collection.Spacious.upsert ?_ storable _)
  rw [List.length_map]
  exact keeps.upsertTarget name field

theorem Keeps.drop {root : String} {count : Nat} {store : Store} {files : Files}
    (keeps : Keeps root count (store, files)) (name : String) :
    Keeps root count ((Change.drop name).apply (store, files)) := by
  rw [apply]
  cases present : store.contains name with
  | false =>
      rw [drop_eq_error files present]
      exact keeps
  | true =>
      rw [keeps.rooted.drop_eq present]
      exact keeps.without name

/-- A change keeps the directory and the room; what it may add comes off the room. -/
theorem keeps_apply {root : String} {count : Nat} {state : Store × Files} {change : Change}
    (keeps : Keeps root (count + change.insertions) state) (fits : change.Fits) :
    Keeps root count (change.apply state) := by
  cases change with
  | create name => exact keeps.create name
  | insert name value => exact keeps.insert fits
  | index name fields => exact keeps.index name fields
  | upsert name field records =>
      have sameCount : (Change.upsert name field records).insertions = records.length :=
        List.length_map _
      rw [sameCount] at keeps
      exact keeps.upsert fits
  | drop name => exact keeps.drop name
  | clear => exact keeps_dropAll keeps state.1.names

/-- Changes one after the other keep the directory and the room that is left. -/
theorem keeps_run {root : String} {changes : List Change} {count : Nat} {state : Store × Files}
    (keeps : Keeps root (count + total changes) state) (fits : ∀ change ∈ changes, change.Fits) :
    Keeps root count (run changes state) := by
  induction changes generalizing state with
  | nil => exact keeps
  | cons change rest ih =>
      obtain ⟨first, others⟩ := List.forall_mem_cons.mp fits
      have split : count + total (change :: rest) = count + total rest + change.insertions := by
        rw [total]
        omega
      rw [split] at keeps
      exact ih (keeps_apply keeps first) others

end Change

/-! ## Writing and opening again -/

/-- Two stores that nobody can tell apart: they have the same collections, with the same documents
under the same numbers, indexes for the same fields, the same answers to all queries, and the same
number for the next document. -/
structure Alike (one two : Store) : Prop where
  names : one.names = two.names
  documents : ∀ name, one.documents name = two.documents name
  indexed : ∀ name field, (one.collection? name).map (·.isIndexed field) =
    (two.collection? name).map (·.isIndexed field)
  query : ∀ name field value, one.query name field value = two.query name field value
  next : ∀ name document, (one.insert name document).map (·.1) =
    (two.insert name document).map (·.1)

theorem reloaded_collection? (store : Store) (name : String) :
    store.reloaded.collection? name = (store.collection? name).map Collection.reloaded := by
  simp only [collection?, reloaded, List.find?_map, Option.map_map]
  rfl

theorem reloaded_collection (store : Store) (name : String) :
    store.reloaded.collection name = (store.collection name).map Collection.reloaded := by
  rw [Store.collection, Store.collection, reloaded_collection?]
  cases store.collection? name <;> rfl

/-- A store in which every collection is sound is no different after it was written and opened. -/
theorem alike_reloaded {store : Store}
    (sound : ∀ entry ∈ store.collections, entry.2.Sound) : store.reloaded.Alike store := by
  have held : ∀ {name collection}, store.collection name = .ok collection → collection.Sound :=
    fun found => sound _ (mem_of_collection? (collection_eq_ok found))
  constructor
  case names =>
    rw [Store.names, reloaded, List.map_map]
    rfl
  case documents =>
    intro name
    rw [Store.documents, Store.documents, reloaded_collection]
    cases store.collection name with
    | error cause => rfl
    | ok collection => exact congrArg Except.ok collection.reloaded_documents
  case indexed =>
    intro name field
    rw [reloaded_collection?]
    cases store.collection? name with
    | none => rfl
    | some collection => exact congrArg some (collection.reloaded_isIndexed field)
  case query =>
    intro name field value
    rw [query, query, reloaded_collection]
    cases found : store.collection name with
    | error cause => rfl
    | ok collection => exact congrArg Except.ok ((held found).reloaded_find field (keyOf value))
  case next =>
    intro name document
    rw [insert, insert, reloaded_collection]
    cases found : store.collection name with
    | error cause => rfl
    | ok collection =>
        have next := (held found).reloaded_nextId
        simp only [bind, Except.bind, Except.map, Collection.insert_eq, next]
        by_cases room : collection.nextId + 1 < Decimal.words64
        · simp only [if_pos room]
          rfl
        · simp only [if_neg room]

/-- An opened store whose numbers are all integers, with numbers for some more documents in every
collection. -/
structure Wide (count : Nat) (store : Store) : Prop where
  integral : ∀ entry ∈ store.collections, ∀ document ∈ entry.2.documents, IsIntegral document.2
  fresh : count + 1 < Decimal.words64
  room : ∀ entry ∈ store.collections, ∀ document ∈ entry.2.documents,
    document.1 + count + 1 < Decimal.words64

theorem Wide.keeps {count : Nat} {store : Store} (wide : store.Wide count) {files opened : Files}
    {root : String} (found : open? files root = (opened, .ok store)) :
    Change.Keeps root count (store, opened) := by
  obtain ⟨rooted, -, loads, -⟩ := rooted_of_open? found
  refine ⟨rooted, fun entry member => ?_, by have fresh := wide.fresh; omega⟩
  obtain ⟨text, -, read, word⟩ := (load_eq_ok (rooted.valid entry member)).mp (loads entry member)
  obtain ⟨fields, documents, same, ascending, kept⟩ := Collection.ofText_origin read
  have integral := wide.integral entry member
  have room := wide.room entry member
  rw [same, Collection.ofParts_documents] at integral room
  rw [same]
  have sound : (Collection.ofParts fields documents).Sound :=
    Collection.sound_ofParts fields ascending
  refine ⟨⟨sound, same ▸ word, fun document there => ?_⟩, ?_⟩
  · rw [Collection.ofParts_documents] at there
    exact ⟨(kept document there).1, integral document there, (kept document there).2⟩
  · rw [Collection.ofParts_nextId]
    exact Collection.nextAfter_add_lt wide.fresh room

/-- An opened store and changes that its files can hold: all numbers are integers, no document is
nested too deep, and the last number is never reached. -/
structure Ready (store : Store) (changes : List Change) : Prop where
  integral : ∀ entry ∈ store.collections, ∀ document ∈ entry.2.documents, IsIntegral document.2
  fits : ∀ change ∈ changes, change.Fits
  fresh : Change.total changes + 1 < Decimal.words64
  room : ∀ entry ∈ store.collections, ∀ document ∈ entry.2.documents,
    document.1 + Change.total changes + 1 < Decimal.words64

theorem keeps_of_open? {files opened : Files} {root : String} {store : Store}
    (found : open? files root = (opened, .ok store)) {changes : List Change}
    (ready : Ready store changes) : Change.Keeps root (Change.total changes) (store, opened) :=
  Wide.keeps ⟨ready.integral, ready.fresh, ready.room⟩ found

/-- A store that was opened, changed and written is the store that is opened then. -/
theorem reopen {files opened : Files} {root : String} {store : Store}
    (found : open? files root = (opened, .ok store)) {changes : List Change}
    (ready : Ready store changes)
    (short : ∀ name ∈ (Change.run changes (store, opened)).1.names,
      name.toList.length ≤ maxNameLength) :
    ∃ written reopened,
      (Change.run changes (store, opened)).1.flush (Change.run changes (store, opened)).2 =
        (written, .ok ()) ∧
      open? written root = (written, .ok reopened) ∧
      reopened.Alike (Change.run changes (store, opened)).1 := by
  have start := keeps_of_open? found ready
  rw [← Nat.zero_add (Change.total changes)] at start
  have keeps := Change.keeps_run start ready.fits
  obtain ⟨written, flushed, -, again, -⟩ := keeps.rooted.flush
    (fun entry member => (keeps.spacious entry member).lasting) short
  exact ⟨written, _, flushed, again,
    alike_reloaded fun entry member => (keeps.spacious entry member).lasting.sound⟩

theorem reopen_sample :
    let files : Files := ⟨[(["db"], .directory),
      (["db", "a.json"], .text "\x7b\"documents\":\x7b\"7\":[1]\x7d\x7d")]⟩
    let store : Store := ⟨some "db", [("a", ⟨[(7, .array [.number (.integer 1)])], [], 8⟩)]⟩
    let changes : List Change :=
      [.index "a" ["k"], .insert "a" (.object [("k", .number (.integer 1))]), .create "c",
        .upsert "b" "_id" [("x", .object [("_id", .string "x")])], .drop "c"]
    ∃ written reopened,
      (Change.run changes (store, files)).1.flush (Change.run changes (store, files)).2 =
        (written, .ok ()) ∧
      open? written "db" = (written, .ok reopened) ∧
      reopened.Alike (Change.run changes (store, files)).1 := by
  refine @reopen ⟨[(["db"], .directory),
      (["db", "a.json"], .text "\x7b\"documents\":\x7b\"7\":[1]\x7d\x7d")]⟩ _ _ _
    (by decide +kernel) _ ⟨?integral, ?fits, by decide, by decide⟩ (by decide +kernel)
  case integral =>
    simp [Json.IsIntegral, Every, EveryItem, Whole, IsWord, Decimal.half64, Decimal.words64]
  case fits =>
    simp [Change.Fits, Change.values, Json.IsIntegral, Every, EveryMember, Whole, IsWord, depth,
      membersDepth, documentRoom, maxDepth, Decimal.half64, Decimal.words64]

/-- A name of 251 characters is valid, but no file can have it with the ending, so a store with such
a collection cannot be written. -/
theorem flush_of_long_name :
    let name := String.ofList (List.replicate 251 'a')
    let files : Files := ⟨[(["db"], .directory)]⟩
    let store : Store := ⟨some "db", []⟩
    open? files "db" = (files, .ok store) ∧ Ready store [.create name] ∧
      ∀ written, (Change.run [.create name] (store, files)).1.flush
        (Change.run [.create name] (store, files)).2 ≠ (written, .ok ()) := by
  intro name files store
  have chars : name.toList = List.replicate 251 'a' := String.toList_ofList
  clear_value name
  have valid : isValidName name = true := by
    have notEmpty : name ≠ "" := by
      intro same
      rw [same] at chars
      cases chars
    simp only [isValidName, chars, List.all_replicate, Bool.and_eq_true, bne_iff_ne]
    exact ⟨notEmpty, by decide⟩
  have created : store.create name = .ok ⟨some "db", [(name, .empty)]⟩ := by
    simp only [create, checkName, if_pos valid]
    rfl
  have none : Change.total [.create name] = 0 := rfl
  refine ⟨by decide +kernel, ⟨?integral, ?fits, ?fresh, ?room⟩, fun written flushed => ?long⟩
  case fresh =>
    rw [none]
    decide
  case integral | room => exact fun _ member => absurd member List.not_mem_nil
  case fits =>
    intro change member value inside
    rw [List.mem_singleton.mp member] at inside
    cases inside
  case long =>
    have ran : Change.run [.create name] (store, files) =
        (⟨some "db", [(name, .empty)]⟩, files) := by
      change (Change.settle store (store.create name), files) = _
      rw [created]
      rfl
    rw [ran] at flushed
    have written : writeAll "db" files [(name, .empty)] = (written, .ok ()) := flushed
    have allValid : ∀ entry ∈ [(name, Collection.empty)], isValidName entry.1 = true := by
      intro entry member
      rw [List.mem_singleton.mp member]
      exact valid
    have short : name.toList.length ≤ maxNameLength :=
      short_of_writeAll allValid written (name, .empty) List.mem_cons_self
    rw [chars, List.length_replicate] at short
    exact absurd short (by decide)

end NetConsole.Store
