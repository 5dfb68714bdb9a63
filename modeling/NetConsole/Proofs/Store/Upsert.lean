import NetConsole.Proofs.Store.Mirrored

/-!
# What an upsert adds

Records that are upserted into a collection leave its documents as they are. After them come, under
consecutive numbers, the first record of each key that no document had.
-/

set_option autoImplicit false

namespace NetConsole.Store

open Json

/-- Documents under consecutive numbers. -/
def numbered (first : DocumentId) (documents : List Json) : List (DocumentId × Json) :=
  (documents.zipIdx first).map Prod.swap

@[simp] theorem numbered_nil (first : DocumentId) : numbered first [] = [] := rfl

theorem numbered_concat (first : DocumentId) (documents : List Json) (document : Json) :
    numbered first (documents ++ [document]) =
      numbered first documents ++ [(first + documents.length, document)] := by
  simp [numbered, List.zipIdx_append]

theorem mem_numbered {first : DocumentId} {documents : List Json} {document : Json} :
    (∃ id, (id, document) ∈ numbered first documents) ↔ document ∈ documents := by
  have values : (numbered first documents).map Prod.snd = documents := by
    rw [numbered, List.map_map]
    exact List.zipIdx_map_fst first documents
  constructor
  · intro given
    obtain ⟨id, member⟩ := given
    rw [← values]
    exact List.mem_map_of_mem member
  · intro member
    rw [← values] at member
    obtain ⟨⟨id, _⟩, there, rfl⟩ := List.mem_map.mp member
    exact ⟨id, there⟩

/-! ## Arrivals -/

/-- Each record stands beside the key that it has under a field. -/
def Keyed (field : String) (records : List (String × Json)) : Prop :=
  ∀ record ∈ records, fieldKey? field record.2 = some record.1

theorem keyed_of_keepable {records : List (String × Json)}
    (keepable : ∀ record ∈ records, Keepable record.1 record.2) : Keyed "_id" records := by
  intro record member
  rw [fieldKey?, (keepable record member).identified]
  rfl

/-- The first record of each key that none of the documents has under a field. -/
def arrivals (field : String) (documents : List (DocumentId × Json))
    (records : List (String × Json)) : List (String × Json) :=
  (firsts records).filter fun record => (matching documents field record.1).isEmpty

theorem mem_keys_arrivals {field : String} {documents : List (DocumentId × Json)}
    {records : List (String × Json)} {key : String} :
    key ∈ (arrivals field documents records).map Prod.fst ↔
      key ∈ records.map Prod.fst ∧ matching documents field key = [] := by
  rw [← @mem_ids_firsts records]
  simp only [arrivals, List.mem_map, List.mem_filter, List.isEmpty_iff]
  constructor
  · intro given
    obtain ⟨record, ⟨there, absent⟩, rfl⟩ := given
    exact ⟨⟨record, there, rfl⟩, absent⟩
  · intro given
    obtain ⟨⟨record, there, rfl⟩, absent⟩ := given
    exact ⟨record, ⟨there, absent⟩, rfl⟩

theorem arrivals_concat (field : String) (documents : List (DocumentId × Json))
    (records : List (String × Json)) (record : String × Json) :
    arrivals field documents (records ++ [record]) =
      if record.1 ∈ records.map Prod.fst ∨ matching documents field record.1 ≠ [] then
        arrivals field documents records
      else arrivals field documents records ++ [record] := by
  rw [arrivals, firsts_append, List.foldl_cons, List.foldl_nil, addNew]
  by_cases earlier : record.1 ∈ records.map Prod.fst
  · rw [if_pos (mem_ids_firsts.mpr earlier), if_pos (.inl earlier)]
    rfl
  · rw [if_neg (mt mem_ids_firsts.mp earlier), List.filter_append]
    by_cases taken : matching documents field record.1 = []
    · rw [if_neg (not_or.mpr ⟨earlier, not_not.mpr taken⟩)]
      simp [arrivals, taken]
    · rw [if_pos (.inr taken)]
      simp [arrivals, taken]

theorem Keyed.arrivals {field : String} {records : List (String × Json)}
    (keyed : Keyed field records) (documents : List (DocumentId × Json)) :
    Keyed field (arrivals field documents records) := fun record member =>
  keyed record (mem_of_mem_firsts (List.mem_filter.mp member).1)

theorem matching_numbered {field : String} {records : List (String × Json)}
    (keyed : Keyed field records) (first : DocumentId) (key : String) :
    matching (numbered first (records.map Prod.snd)) field key = [] ↔
      key ∉ records.map Prod.fst := by
  rw [List.eq_nil_iff_forall_not_mem, ← not_exists, not_iff_not]
  constructor
  · intro given
    obtain ⟨number, found⟩ := given
    obtain ⟨document, there, same⟩ := mem_matching.mp found
    obtain ⟨record, member, rfl⟩ := List.mem_map.mp (mem_numbered.mp ⟨number, there⟩)
    rw [keyed record member] at same
    cases same
    exact List.mem_map_of_mem member
  · intro member
    obtain ⟨record, there, rfl⟩ := List.mem_map.mp member
    obtain ⟨number, found⟩ := (@mem_numbered first _ _).mpr (List.mem_map_of_mem there)
    exact ⟨number, mem_matching.mpr ⟨record.2, found, keyed record there⟩⟩

namespace Collection

/-- What an upsert makes of a sound collection: its documents stay, the arrivals come after them
under the numbers that are next, and they are counted. -/
structure Added (field : String) (before : Collection) (records : List (String × Json))
    (state : Report × Collection) : Prop where
  sound : state.2.Sound
  documents : state.2.documents = before.documents ++
    numbered before.nextId ((arrivals field before.documents records).map Prod.snd)
  nextId : state.2.nextId = before.nextId + (arrivals field before.documents records).length
  inserted : state.1.inserted = (arrivals field before.documents records).length

section

variable {field : String} {before : Collection} {records : List (String × Json)}

theorem Added.find_isEmpty {state : Report × Collection}
    (added : before.Added field records state) (keyed : Keyed field records) (key : String) :
    (state.2.find field key).isEmpty = true ↔
      ¬(key ∈ records.map Prod.fst ∨ matching before.documents field key ≠ []) := by
  rw [added.sound.find_eq_matching, List.isEmpty_iff, added.documents, matching_append,
    List.append_eq_nil_iff, matching_numbered (keyed.arrivals _), mem_keys_arrivals]
  tauto

theorem Added.considered {state : Report × Collection} (added : before.Added field records state)
    (keyed : Keyed field records) (record : String × Json) :
    before.Added field (records ++ [record]) (considered field state record) := by
  have empty := added.find_isEmpty keyed record.1
  have arrived := arrivals_concat field before.documents records record
  rw [Store.considered]
  by_cases known : record.1 ∈ records.map Prod.fst ∨ matching before.documents field record.1 ≠ []
  · rw [if_pos known] at arrived
    rw [if_neg fun nothing => empty.mp nothing known]
    constructor
    case sound => exact added.sound
    case documents => exact arrived ▸ added.documents
    case nextId => exact arrived ▸ added.nextId
    case inserted => exact arrived ▸ added.inserted
  · rw [if_neg known] at arrived
    rw [if_pos (empty.mpr known)]
    constructor
    case sound => exact added.sound.added record.2
    case documents =>
      rw [arrived, List.map_append, List.map_singleton, numbered_concat, List.length_map,
        ← added.nextId, added.sound.added_documents, added.documents]
      exact List.append_assoc _ _ _
    case nextId =>
      rw [arrived, added_nextId, added.nextId, List.length_append, List.length_singleton]
      exact Nat.add_assoc _ _ _
    case inserted =>
      rw [arrived, List.length_append, List.length_singleton]
      exact congrArg Nat.succ added.inserted

theorem Sound.added_upserted (sound : before.Sound) (keyed : Keyed field records) :
    before.Added field records (before.upserted field records) := by
  induction records using List.reverseRecOn with
  | nil => exact ⟨sound, (List.append_nil _).symm, rfl, rfl⟩
  | append_singleton earlier record ih =>
      have earlierKeyed : Keyed field earlier := fun other member =>
        keyed other (List.mem_append_left _ member)
      rw [upserted, List.foldl_concat]
      exact (ih earlierKeyed).considered earlierKeyed record

end

end Collection

/-! ## Stores with records -/

/-- The documents of the collection with a name; none if there is no such collection. -/
def kept (store : Store) (name : String) : List (DocumentId × Json) :=
  ((store.collection? name).map (·.documents)).getD []

theorem upsertTarget_kept (store : Store) (name field : String) :
    (store.upsertTarget name field).documents = store.kept name := by
  rw [upsertTarget, kept, Collection.addIndex_documents]
  cases store.collection? name <;> rfl

theorem Change.Keeps.withRecords {root : String} {count : Nat} {store : Store} {files : Files}
    {name : String} {records : List (String × Json)}
    (keeps : Keeps root (count + records.length) (store, files)) (valid : isValidName name = true)
    (keepable : ∀ record ∈ records, Keepable record.1 record.2) :
    Keeps root count (store.withRecords name records, files) :=
  keeps.put (Nat.le_add_right _ _) valid
    ((keeps.upsertTarget name "_id").upsert (fun record member => (keepable record member).storable) _)

theorem Change.Keeps.withRecords_documents {root : String} {count : Nat} {store : Store}
    {files : Files} {records : List (String × Json)}
    (keeps : Keeps root (count + records.length) (store, files)) (name : String)
    (keepable : ∀ record ∈ records, Keepable record.1 record.2) :
    (store.withRecords name records).documents name = .ok (store.kept name ++
      numbered (Collection.nextAfter (store.kept name))
        ((arrivals "_id" (store.kept name) records).map Prod.snd)) := by
  have sound := (keeps.upsertTarget name "_id").lasting.sound
  have added := (sound.added_upserted (keyed_of_keepable keepable)).documents
  rw [sound.next, upsertTarget_kept] at added
  have found : (store.withRecords name records).collection? name =
      some ((store.upsertTarget name "_id").upserted "_id" records).2 :=
    (put_collection? keeps.rooted.ascending name _ name).trans (if_pos rfl)
  rw [documents, Store.collection, found]
  exact congrArg Except.ok added

/-! ## Opened stores -/

/-- Opening a store makes no file, and no file is lost by it. -/
theorem text_of_open? {files after : Files} {root : String} {result : Except Error Store}
    (opened : open? files root = (after, result)) {path : Path} {content : String} :
    after.at? path = some (.text content) ↔ files.at? path = some (.text content) := by
  unfold open? at opened
  split at opened
  case isTrue =>
    cases opened
    rfl
  case isFalse =>
    split at opened
    case h_1 =>
      cases opened
      rfl
    case h_2 made =>
      cases opened
      exact Files.text_of_makeDirectory made

/-- The collections that are opened can be written under their names: their files were there. -/
theorem short_of_open? {files opened : Files} {root : String} {store : Store}
    (found : open? files root = (opened, .ok store)) (wellNamed : files.WellNamed) :
    ∀ name ∈ store.names, name.toList.length ≤ maxNameLength := by
  obtain ⟨rooted, -, loads, -⟩ := rooted_of_open? found
  intro name present
  obtain ⟨collection, member⟩ := mem_names.mp present
  have valid : isValidName name = true := rooted.valid (name, collection) member
  have read : load opened root name = .ok collection := loads (name, collection) member
  obtain ⟨text, there, -⟩ := (load_eq_ok valid).mp read
  have allowed : Path.isName (fileName name) = true :=
    wellNamed (Path.ofText root) (fileName name) text ((text_of_open? found).mp there)
  exact of_decide_eq_true ((isName_fileName valid).symm.trans allowed)

/-- What is opened in a directory is like a store, and nothing has to be made for it. -/
def Reopens (files : Files) (root : String) (store : Store) : Prop :=
  ∃ after, open? files root = (files, .ok after) ∧ after.Alike store

theorem Change.Keeps.reopens {root : String} {count : Nat} {store : Store} {files written : Files}
    (keeps : Keeps root count (store, files))
    (short : ∀ name ∈ store.names, name.toList.length ≤ maxNameLength)
    (flushed : store.flush files = (written, .ok ())) : Reopens written root store := by
  obtain ⟨after, done, -, found, -⟩ :=
    keeps.rooted.flush (fun entry member => (keeps.spacious entry member).lasting) short
  rw [flushed] at done
  cases done
  exact ⟨store.reloaded, found,
    alike_reloaded fun entry member => (keeps.spacious entry member).lasting.sound⟩

end NetConsole.Store
