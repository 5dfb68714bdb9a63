import NetConsole.Proofs.Store.CollectionFile
import NetConsole.Proofs.Store.Counting

/-!
# Growing collections

A collection starts empty or from a file, and grows by documents and by indexes in any order, until
there are no numbers left. A query for a field finds the same documents whether and whenever an
index was made for the field: those that are objects with this key under the field.
-/

set_option autoImplicit false

namespace NetConsole.Store.Collection

open Json

/-! ## Growth -/

/-- Where a collection starts from: it is new, or it is made of the parts of a file. -/
inductive Origin : Collection → Prop where
  | empty : Origin .empty
  | parts (fields : List String) (documents : List (DocumentId × Json))
      (ascending : Ascending documents) : Origin (ofParts fields documents)

theorem Origin.ofText {text : String} {collection : Collection}
    (read : Collection.ofText text = .ok collection) : collection.Origin := by
  obtain ⟨fields, documents, rfl, ascending, -⟩ := ofText_origin read
  exact .parts fields documents ascending

/-- One way for a collection to grow. -/
inductive Growth where
  | insert (document : Json)
  | index (field : String)

def Growth.document? : Growth → Option Json
  | .insert document => some document
  | .index _ => none

/-- The collection after one growth. -/
def grow (collection : Collection) : Growth → Except Error Collection
  | .insert document => (collection.insert document).map (·.2)
  | .index field => .ok (collection.addIndex field)

/-- The collection after growths, one after the other. -/
def grown (collection : Collection) (growths : List Growth) : Except Error Collection :=
  growths.foldlM grow collection

/-- What a collection grows to, whatever its numbers. -/
def extend (collection : Collection) : Growth → Collection
  | .insert document => collection.added document
  | .index field => collection.addIndex field

def extended (collection : Collection) (growths : List Growth) : Collection :=
  growths.foldl extend collection

theorem counting_grow : Counting grow extend Collection.nextId := by
  constructor
  case le =>
    intro collection growth
    cases growth with
    | insert document => exact Nat.le_succ _
    | index field => exact (addIndex_nextId collection field).ge
  case step_eq =>
    intro collection growth
    cases growth with
    | insert document =>
        rw [grow, insert_eq]
        simp only [extend, reaches_added]
        split <;> rfl
    | index field => exact (if_pos (.inl (addIndex_nextId collection field))).symm

theorem grown_eq_ok {collection after : Collection} {growths : List Growth}
    (grew : collection.grown growths = .ok after) : after = collection.extended growths :=
  (counting_grow.foldlM_eq_ok grew).1

/-! ## Soundness -/

theorem Origin.sound {collection : Collection} (origin : collection.Origin) : collection.Sound := by
  cases origin with
  | empty => exact sound_empty
  | parts fields documents ascending => exact sound_ofParts fields ascending

theorem Sound.extend {collection : Collection} (sound : collection.Sound) (growth : Growth) :
    (collection.extend growth).Sound := by
  cases growth with
  | insert document => exact sound.added document
  | index field => exact sound.addIndex field

theorem Sound.extended {collection : Collection} (sound : collection.Sound)
    (growths : List Growth) : (collection.extended growths).Sound := by
  induction growths generalizing collection with
  | nil => exact sound
  | cons growth rest ih => exact ih (sound.extend growth)

theorem Origin.sound_grown {start collection : Collection} (origin : start.Origin)
    {growths : List Growth} (grew : start.grown growths = .ok collection) : collection.Sound := by
  rw [grown_eq_ok grew]
  exact origin.sound.extended growths

/-! ## Documents -/

/-- The documents and the next number after one more document. -/
def adjoin (state : List (DocumentId × Json) × DocumentId) (document : Json) :
    List (DocumentId × Json) × DocumentId :=
  (insertNumbered state.2 document state.1, state.2 + 1)

/-- Indexes have no part in where documents go. -/
theorem extended_documents_nextId (collection : Collection) (growths : List Growth) :
    ((collection.extended growths).documents, (collection.extended growths).nextId) =
      (growths.filterMap Growth.document?).foldl adjoin
        (collection.documents, collection.nextId) := by
  induction growths generalizing collection with
  | nil => rfl
  | cons growth rest ih =>
      have later := ih (collection.extend growth)
      cases growth with
      | insert document => exact later
      | index field =>
          rw [Collection.extend, addIndex_documents, addIndex_nextId] at later
          exact later

/-- Growths with the same documents come to the same documents, if there are numbers for them. -/
theorem exists_grown_of_same {start collection : Collection} {growths others : List Growth}
    (grew : start.grown growths = .ok collection)
    (same : others.filterMap Growth.document? = growths.filterMap Growth.document?) :
    ∃ other, start.grown others = .ok other ∧ other.documents = collection.documents := by
  have one := extended_documents_nextId start growths
  have two := extended_documents_nextId start others
  rw [same, ← one] at two
  obtain ⟨rfl, reached⟩ := counting_grow.foldlM_eq_ok grew
  have counts : (start.extended others).nextId = (start.extended growths).nextId :=
    congrArg Prod.snd two
  refine ⟨start.extended others, ?_, congrArg Prod.fst two⟩
  rw [grown, counting_grow.foldlM_eq]
  refine if_pos ?_
  change Reaches start.nextId (start.extended others).nextId
  rw [counts]
  exact reached

/-! ## Queries -/

theorem Sound.mem_find {collection : Collection} (sound : collection.Sound) {field key : String}
    {id : DocumentId} : id ∈ collection.find field key ↔
      ∃ document value, (id, document) ∈ collection.documents ∧
        document.get? field = some value ∧ keyOf value = key := by
  rw [sound.find_eq_matching, mem_matching_value]

theorem Sound.find_ascending {collection : Collection} (sound : collection.Sound)
    (field key : String) : (collection.find field key).Pairwise (· < ·) := by
  rw [sound.find_eq_matching]
  exact matching_ascending sound.ascending field key

/-- A query finds the documents that are objects with the key under the field, each once. Other
growths with the same documents, and another start with the documents that there are by now, leave
its answer as it is. -/
theorem find_grown {start collection : Collection} (origin : start.Origin) {growths : List Growth}
    (grew : start.grown growths = .ok collection) (field key : String) :
    (∀ id, id ∈ collection.find field key ↔
      ∃ document value, (id, document) ∈ collection.documents ∧
        document.get? field = some value ∧ keyOf value = key) ∧
    (collection.find field key).Pairwise (· < ·) ∧
    (∀ others : List Growth,
      others.filterMap Growth.document? = growths.filterMap Growth.document? →
        ∃ other, start.grown others = .ok other ∧
          other.find field key = collection.find field key) ∧
    ∀ again : Collection, again.Origin → again.documents = collection.documents →
      again.find field key = collection.find field key := by
  have sound : collection.Sound := origin.sound_grown grew
  -- sound collections with the same documents answer alike
  have alike : ∀ other : Collection, other.Sound → other.documents = collection.documents →
      other.find field key = collection.find field key := by
    intro other otherSound same
    rw [otherSound.find_eq_matching, sound.find_eq_matching, same]
  refine ⟨fun id => sound.mem_find, sound.find_ascending field key, ?others, ?again⟩
  case others =>
    intro others same
    obtain ⟨other, otherGrew, documents⟩ := exists_grown_of_same grew same
    exact ⟨other, otherGrew, alike other (origin.sound_grown otherGrew) documents⟩
  case again =>
    intro again againOrigin documents
    exact alike again againOrigin.sound documents

theorem find_grown_sample :
    let start : Collection := ofParts ["k"] [(7, .array []), (9, .object [("k", .string "1")])]
    let growths : List Growth :=
      [.insert (.object [("k", .number (.integer 1))]), .index "m", .insert (.string "k"),
        .insert (.object [("m", .null)]), .index "n"]
    ∃ collection, start.grown growths = .ok collection ∧ collection.find "k" "1" = [9, 10] ∧
      ∀ others : List Growth,
        others.filterMap Growth.document? = growths.filterMap Growth.document? →
          ∃ other, start.grown others = .ok other ∧ other.find "k" "1" = [9, 10] := by
  intro start growths
  have grew : start.grown growths = .ok (start.extended growths) := by decide +kernel
  have found : (start.extended growths).find "k" "1" = [9, 10] := by decide +kernel
  have origin : start.Origin := .parts _ _ (by simp [Ascending])
  obtain ⟨-, -, others, -⟩ := find_grown origin grew "k" "1"
  rw [found] at others
  exact ⟨_, grew, found, others⟩

end NetConsole.Store.Collection
