import NetConsole.Proofs.Ascending

/-!
# Sound collections

The documents of a collection ascend, the next number is the one after the last, and every index
answers as a scan of the documents would. Adding documents and indexes keeps all of this, so a query
has one answer whether its field is indexed or not.
-/

set_option autoImplicit false

namespace NetConsole.Store

open Json

/-! ## Indexes -/

/-- The numbers of those documents that have a key in a field. -/
def matching (documents : List (DocumentId × Json)) (field key : String) : List DocumentId :=
  (documents.filter (fieldKey? field ·.2 == some key)).map (·.1)

theorem matching_append (first second : List (DocumentId × Json)) (field key : String) :
    matching (first ++ second) field key =
      matching first field key ++ matching second field key := by
  simp only [matching, List.filter_append, List.map_append]

theorem mem_matching {documents : List (DocumentId × Json)} {field key : String}
    {id : DocumentId} : id ∈ matching documents field key ↔
      ∃ document, (id, document) ∈ documents ∧ fieldKey? field document = some key := by
  simp only [matching, List.mem_map, List.mem_filter, beq_iff_eq, Prod.exists]
  constructor
  · intro given
    obtain ⟨_, document, ⟨there, same⟩, rfl⟩ := given
    exact ⟨document, there, same⟩
  · intro given
    obtain ⟨document, there, same⟩ := given
    exact ⟨id, document, ⟨there, same⟩, rfl⟩

theorem mem_matching_value {documents : List (DocumentId × Json)} {field key : String}
    {id : DocumentId} : id ∈ matching documents field key ↔
      ∃ document value, (id, document) ∈ documents ∧
        document.get? field = some value ∧ keyOf value = key := by
  rw [mem_matching]
  refine exists_congr fun document => ?_
  rw [fieldKey?, Option.map_eq_some_iff, exists_and_left]

theorem matching_ascending {documents : List (DocumentId × Json)} (ascending : Ascending documents)
    (field key : String) : (matching documents field key).Pairwise (· < ·) := by
  rw [matching, List.pairwise_map]
  exact ascending.filter _

namespace Index

/-- The index with a document taken note of, if the document has the field. -/
def note (field : String) (index : Index) (id : DocumentId) (document : Json) : Index :=
  match fieldKey? field document with
  | some key => index.add key id
  | none => index

theorem insertId_of_above {id : DocumentId} {ids : List DocumentId}
    (above : ∀ other ∈ ids, other < id) : insertId id ids = ids ++ [id] := by
  induction ids with
  | nil => rfl
  | cons head rest ih =>
      obtain ⟨less, above⟩ := List.forall_mem_cons.mp above
      rw [insertId, if_neg less.not_gt, if_pos less, ih above]
      rfl

theorem find_add (index : Index) (key : String) (id : DocumentId) (other : String) :
    (index.add key id).find other =
      if other = key then insertId id (index.find key) else index.find other := by
  induction index with
  | nil =>
      by_cases same : other = key
      · subst same
        simp [add, find, insertId]
      · simp [add, find, same, Ne.symm same]
  | cons entry rest ih =>
      obtain ⟨k, ids⟩ := entry
      unfold find at ih ⊢
      by_cases here : k = key
      · subst here
        rw [add, if_pos rfl]
        by_cases same : other = k
        · subst same
          simp
        · simp [same, Ne.symm same]
      · rw [add, if_neg here]
        by_cases same : k = other
        · subst same
          simp [here]
        · simpa [here, same] using ih

theorem find_note {index : Index} {field : String} {documents : List (DocumentId × Json)}
    (agrees : ∀ key, index.find key = matching documents field key) {id : DocumentId}
    (above : ∀ entry ∈ documents, entry.1 < id) (document : Json) (key : String) :
    (index.note field id document).find key =
      matching (documents ++ [(id, document)]) field key := by
  rw [matching_append]
  unfold note
  cases found : fieldKey? field document with
  | none =>
      have unmatched : matching [(id, document)] field key = [] := by simp [matching, found]
      rw [unmatched, List.append_nil]
      exact agrees key
  | some own =>
      dsimp only
      rw [find_add]
      by_cases same : key = own
      · subst same
        have matched : matching [(id, document)] field key = [id] := by simp [matching, found]
        rw [if_pos rfl, matched, agrees]
        refine insertId_of_above fun other member => ?_
        obtain ⟨before, there, -⟩ := mem_matching.mp member
        exact above (other, before) there
      · have unmatched : matching [(id, document)] field key = [] := by
          simp [matching, found, Ne.symm same]
        rw [if_neg same, unmatched, List.append_nil]
        exact agrees key

/-- The index of a field over ascending documents answers as a scan does. -/
theorem find_ofDocuments {documents : List (DocumentId × Json)} (ascending : Ascending documents)
    (field key : String) : (ofDocuments field documents).find key = matching documents field key := by
  -- the documents before a place are what the index at that place has taken note of
  suffices reached : ∀ (after before : List (DocumentId × Json)) (index : Index),
      Ascending (before ++ after) → (∀ key, index.find key = matching before field key) →
        Index.find (after.foldl (fun index entry => note field index entry.1 entry.2) index) key =
          matching (before ++ after) field key from
    reached documents [] [] ascending fun _ => rfl
  intro after
  induction after with
  | nil =>
      intro before index _ agrees
      rw [List.append_nil]
      exact agrees key
  | cons entry after ih =>
      intro before index ascending agrees
      have above : ∀ earlier ∈ before, earlier.1 < entry.1 := fun earlier member =>
        (List.pairwise_append.mp ascending).2.2 earlier member entry List.mem_cons_self
      rw [List.append_cons] at ascending ⊢
      exact ih (before ++ [entry]) _ ascending (find_note agrees above entry.2)

end Index

/-! ## Collections -/

namespace Collection

/-- The number after the last of some documents; one if there are none. -/
def nextAfter (documents : List (DocumentId × Json)) : DocumentId :=
  (documents.getLast?.map (·.1 + 1)).getD 1

/-- A collection in which everything is in its place. -/
structure Sound (collection : Collection) : Prop where
  ascending : Ascending collection.documents
  below : ∀ entry ∈ collection.documents, entry.1 < collection.nextId
  next : collection.nextId = nextAfter collection.documents
  indexes : ∀ entry ∈ collection.indexes, ∀ key,
    entry.2.find key = matching collection.documents entry.1 key

/-- A query has the same answer with an index and without one. -/
theorem Sound.find_eq_matching {collection : Collection} (sound : collection.Sound)
    (field key : String) : collection.find field key = matching collection.documents field key := by
  unfold find
  cases found : collection.indexes.find? (·.1 == field) with
  | none => rfl
  | some entry =>
      obtain ⟨name, index⟩ := entry
      have named : name = field := by simpa using List.find?_some found
      subst named
      exact sound.indexes (name, index) (List.mem_of_find?_eq_some found) key

theorem sound_empty : empty.Sound where
  ascending := List.Pairwise.nil
  below := fun _ member => absurd member List.not_mem_nil
  next := rfl
  indexes := fun _ member => absurd member List.not_mem_nil

/-! ## Adding indexes -/

@[simp] theorem addIndex_documents (collection : Collection) (field : String) :
    (collection.addIndex field).documents = collection.documents := by
  unfold addIndex
  split <;> rfl

@[simp] theorem addIndex_nextId (collection : Collection) (field : String) :
    (collection.addIndex field).nextId = collection.nextId := by
  unfold addIndex
  split <;> rfl

theorem isIndexed_iff {collection : Collection} {field : String} :
    collection.isIndexed field = true ↔ field ∈ collection.indexedFields := by
  simp [isIndexed, indexedFields]

theorem mem_addIndex {collection : Collection} {field other : String} :
    other ∈ (collection.addIndex field).indexedFields ↔
      other = field ∨ other ∈ collection.indexedFields := by
  unfold addIndex
  split
  case isTrue there =>
    have member := isIndexed_iff.mp there
    constructor
    · exact .inr
    · intro given
      rcases given with rfl | present
      · exact member
      · exact present
  case isFalse missing =>
    simp only [indexedFields, List.map_append, List.map_cons, List.map_nil, List.mem_append,
      List.mem_singleton]
    exact or_comm

theorem Sound.addIndex {collection : Collection} (sound : collection.Sound) (field : String) :
    (collection.addIndex field).Sound := by
  constructor
  case ascending => simpa using sound.ascending
  case below => simpa using sound.below
  case next => simpa using sound.next
  case indexes =>
    unfold Collection.addIndex
    split
    · exact sound.indexes
    · intro entry member key
      rcases List.mem_append.mp member with there | added
      · exact sound.indexes entry there key
      · rw [List.mem_singleton.mp added]
        exact Index.find_ofDocuments sound.ascending field key

theorem Sound.addIndexes {collection : Collection} (sound : collection.Sound)
    (fields : List String) : (fields.foldl Collection.addIndex collection).Sound := by
  induction fields generalizing collection with
  | nil => exact sound
  | cons field rest ih => exact ih (sound.addIndex field)

theorem addIndexes_documents (collection : Collection) (fields : List String) :
    (fields.foldl addIndex collection).documents = collection.documents := by
  induction fields generalizing collection with
  | nil => rfl
  | cons field rest ih => rw [List.foldl_cons, ih, addIndex_documents]

theorem addIndexes_nextId (collection : Collection) (fields : List String) :
    (fields.foldl addIndex collection).nextId = collection.nextId := by
  induction fields generalizing collection with
  | nil => rfl
  | cons field rest ih => rw [List.foldl_cons, ih, addIndex_nextId]

theorem mem_addIndexes {collection : Collection} {fields : List String} {field : String} :
    field ∈ (fields.foldl addIndex collection).indexedFields ↔
      field ∈ fields ∨ field ∈ collection.indexedFields := by
  induction fields generalizing collection with
  | nil => simp
  | cons head rest ih =>
      rw [List.foldl_cons, ih, mem_addIndex, List.mem_cons]
      constructor
      · intro given
        rcases given with later | rfl | before
        · exact .inl (.inr later)
        · exact .inl (.inl rfl)
        · exact .inr before
      · intro given
        rcases given with (rfl | later) | before
        · exact .inr (.inl rfl)
        · exact .inl later
        · exact .inr (.inr before)

/-! ## Adding documents -/

theorem nextAfter_add_lt {documents : List (DocumentId × Json)} {count : Nat}
    (fresh : count + 1 < Decimal.words64)
    (room : ∀ entry ∈ documents, entry.1 + count + 1 < Decimal.words64) :
    nextAfter documents + count < Decimal.words64 := by
  unfold nextAfter
  cases found : documents.getLast? with
  | none =>
      rw [Option.map_none, Option.getD_none, Nat.add_comm]
      exact fresh
  | some last =>
      rw [Option.map_some, Option.getD_some, Nat.add_right_comm]
      exact room last (List.mem_of_getLast? found)

theorem nextAfter_append (documents : List (DocumentId × Json)) (id : DocumentId)
    (document : Json) : nextAfter (documents ++ [(id, document)]) = id + 1 := by
  simp [nextAfter]

theorem Sound.added_documents {collection : Collection} (sound : collection.Sound)
    (document : Json) : (collection.added document).documents =
      collection.documents ++ [(collection.nextId, document)] := by
  change insertNumbered _ document _ = _
  rw [insertNumbered_eq_put]
  exact Ascending.put_of_above document sound.below

theorem added_indexes (collection : Collection) (document : Json) :
    (collection.added document).indexes = collection.indexes.map fun entry =>
      (entry.1, entry.2.note entry.1 collection.nextId document) := by
  refine List.map_congr_left fun entry _ => ?_
  dsimp only [Index.note]
  cases fieldKey? entry.1 document <;> rfl

@[simp] theorem added_nextId (collection : Collection) (document : Json) :
    (collection.added document).nextId = collection.nextId + 1 := rfl

theorem Sound.added {collection : Collection} (sound : collection.Sound) (document : Json) :
    (collection.added document).Sound := by
  have documents := sound.added_documents document
  constructor
  case ascending =>
    rw [documents]
    refine List.pairwise_append.mpr ⟨sound.ascending, List.pairwise_singleton _ _, ?_⟩
    intro earlier member last isLast
    rw [List.mem_singleton.mp isLast]
    exact sound.below earlier member
  case below =>
    intro entry member
    rw [documents] at member
    rw [added_nextId]
    rcases List.mem_append.mp member with earlier | last
    · exact Nat.lt_succ_of_lt (sound.below entry earlier)
    · rw [List.mem_singleton.mp last]
      exact Nat.lt_succ_self _
  case next =>
    rw [documents, nextAfter_append, added_nextId]
  case indexes =>
    intro entry member key
    rw [added_indexes] at member
    obtain ⟨before, there, rfl⟩ := List.mem_map.mp member
    rw [documents]
    exact Index.find_note (sound.indexes before there) sound.below document key

/-- An insert returns exactly if there is a number left for the document after it. -/
theorem insert_eq (collection : Collection) (document : Json) : collection.insert document =
    if collection.nextId + 1 < Decimal.words64 then
      .ok (collection.nextId, collection.added document)
    else .error .overflow := by
  rw [insert, counted, added_nextId]
  split <;> rfl

/-! ## Collections from parts -/

@[simp] theorem ofParts_documents (fields : List String) (documents : List (DocumentId × Json)) :
    (ofParts fields documents).documents = documents := addIndexes_documents _ fields

@[simp] theorem ofParts_nextId (fields : List String) (documents : List (DocumentId × Json)) :
    (ofParts fields documents).nextId = nextAfter documents := addIndexes_nextId _ fields

theorem mem_ofParts {fields : List String} {documents : List (DocumentId × Json)}
    {field : String} : field ∈ (ofParts fields documents).indexedFields ↔ field ∈ fields := by
  rw [ofParts, mem_addIndexes]
  exact or_iff_left List.not_mem_nil

theorem sound_ofParts (fields : List String) {documents : List (DocumentId × Json)}
    (ascending : Ascending documents) : (ofParts fields documents).Sound := by
  refine Sound.addIndexes ⟨ascending, fun entry member => ?_, rfl, fun _ => (absurd · List.not_mem_nil)⟩
    fields
  change entry.1 < nextAfter documents
  change entry ∈ documents at member
  -- the last document has the highest number
  obtain ⟨init, last, rfl⟩ : ∃ init last, documents = init ++ [last] :=
    ⟨_, _, (List.dropLast_append_getLast (List.ne_nil_of_mem member)).symm⟩
  rw [nextAfter_append]
  rcases List.mem_append.mp member with earlier | isLast
  · exact Nat.lt_succ_of_lt
      ((List.pairwise_append.mp ascending).2.2 entry earlier last List.mem_cons_self)
  · rw [List.mem_singleton.mp isLast]
    exact Nat.lt_succ_self _

end Collection

end NetConsole.Store
