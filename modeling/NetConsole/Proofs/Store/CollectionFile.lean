import NetConsole.Proofs.Json.RoundTrip
import NetConsole.Proofs.Json.Shapes
import NetConsole.Proofs.Store.Collection

/-!
# The files of collections

A file holds the documents of a collection and the names of its indexed fields. The rest of the
collection is made anew when the file is read, and it is made as it was.
-/

set_option autoImplicit false

namespace NetConsole.Store

open Json Stepwise

/-- The levels that a document in a file may have: two of those that a reader takes are used up by
the file itself. -/
def documentRoom : Nat := maxDepth - 2

/-- A document that a file can hold and give back. -/
structure Storable (document : Json) : Prop where
  sorted : IsSorted document
  integral : IsIntegral document
  shallow : document.depth ≤ documentRoom

theorem storable_sorted {value : Json} (integral : IsIntegral value)
    (shallow : value.depth ≤ documentRoom) : Storable value.sorted where
  sorted := isSorted_sorted value
  integral := isIntegral_sorted integral
  shallow := (depth_sorted_le value).trans shallow

namespace Collection

/-- Documents under their numbers as keys. -/
def named (documents : List (DocumentId × Json)) : List (String × Json) :=
  documents.map fun entry => (toString entry.1, entry.2)

theorem numberIn?_toString (id : DocumentId) :
    Decimal.numberIn? 10 (toString id).toList = some id := by
  rw [toList_toString]
  exact numberIn?_digitChars id

theorem numbered_named (documents : List (DocumentId × Json)) :
    (named documents).map (fun (key, document) =>
      ((Decimal.numberIn? 10 key.toList).getD 0, document)) = documents := by
  rw [named, List.map_map]
  refine (List.map_congr_left fun entry _ => ?_).trans (List.map_id documents)
  simp only [Function.comp_apply, numberIn?_toString]
  rfl

theorem ofJson_object (fields : List Json) (documents : List (DocumentId × Json)) :
    ofJson (.object [("indexes", .array fields), ("documents", .object (named documents))]) =
      ofParts (fields.filterMap Json.text?) documents := by
  have first : Json.get? "indexes" (.object [("indexes", .array fields),
      ("documents", .object (named documents))]) = some (.array fields) := by
    simp [Json.get?, Json.lookup]
  have second : Json.get? "documents" (.object [("indexes", .array fields),
      ("documents", .object (named documents))]) = some (.object (named documents)) := by
    simp [Json.get?, Json.lookup]
  simp only [ofJson, itemsAt, first, second, numbered_named]

/-! ## What a file yields -/

theorem readNumbered_origin {room : Nat} {trees : List (Key × Tree)}
    {start entries : List (DocumentId × Json)} (ascending : Ascending start)
    (read : readNumbered room trees start = .ok entries) :
    Ascending entries ∧ ∀ entry ∈ entries,
      entry ∈ start ∨ ∃ tree ∈ trees, tree.2.value room = .ok entry.2 := by
  induction trees generalizing start with
  | nil =>
      cases read
      exact ⟨ascending, fun _ => .inl⟩
  | cons tree trees ih =>
      obtain ⟨key, tree⟩ := tree
      rw [readNumbered] at read
      obtain ⟨id, _, read⟩ := bind_eq_ok.mp read
      obtain ⟨value, first, read⟩ := bind_eq_ok.mp read
      rw [insertNumbered_eq_put] at read
      obtain ⟨ordered, origin⟩ := ih (ascending.put_ascending id value) read
      refine ⟨ordered, fun entry member => ?_⟩
      rcases origin entry member with before | ⟨source, there, found⟩
      · rcases (Ascending.mem_put ascending id value entry).mp before with rfl | ⟨earlier, -⟩
        · exact .inr ⟨(key, tree), List.mem_cons_self, first⟩
        · exact .inl earlier
      · exact .inr ⟨source, List.mem_cons_of_mem _ there, found⟩

theorem readShape_numbered {room : Nat} {tree : Tree} {value : Json}
    (read : readShape .numbered room tree = .ok value) :
    ∃ inner entries, room = inner + 1 ∧ value = .object (named entries) ∧ Ascending entries ∧
      ∀ entry ∈ entries, ∃ part ∈ tree.parts, part.value inner = .ok entry.2 := by
  rcases tree_of_readShape rfl (fun _ => rfl) read with ⟨trees, close, rfl⟩ | ⟨trees, close, rfl⟩
  · rw [readShape] at read
    cases read
  · rw [readShape] at read
    simp only [Shape.base] at read
    obtain ⟨inner, entered, read⟩ := bind_eq_ok.mp read
    obtain ⟨entries, each, read⟩ := bind_eq_ok.mp read
    obtain ⟨_, _, read⟩ := bind_eq_ok.mp read
    cases read
    obtain ⟨ascending, origin⟩ := readNumbered_origin List.Pairwise.nil each
    refine ⟨inner, entries, Tree.enter_eq_ok.mp entered, rfl, ascending, fun entry member => ?_⟩
    rcases origin entry member with before | ⟨source, there, found⟩
    · exact absurd before List.not_mem_nil
    · exact ⟨source.2, List.mem_map_of_mem there, found⟩

/-- Whatever file a collection is read from, its documents ascend and are as sorted and as shallow
as its reader makes them. -/
theorem ofText_origin {text : String} {collection : Collection}
    (read : ofText text = .ok collection) : ∃ fields documents,
      collection = ofParts fields documents ∧ Ascending documents ∧
        ∀ entry ∈ documents, IsSorted entry.2 ∧ entry.2.depth ≤ documentRoom := by
  obtain ⟨value, parsed, rfl⟩ := map_eq_ok read
  obtain ⟨inner, members, rest, deep, rfl, filled, -, nothing⟩ :=
    readShape_record (by decide) (parseAs_eq_ok parsed)
  obtain rfl : rest = [] := nothing rfl
  obtain ⟨⟨_, fields⟩, _, ⟨rfl, indexes⟩, further, rfl⟩ := List.forall₂_cons_left_iff.mp filled
  obtain ⟨⟨_, body⟩, _, ⟨rfl, documents⟩, ended, rfl⟩ := List.forall₂_cons_left_iff.mp further
  cases ended
  obtain ⟨items, rfl⟩ : ∃ items, fields = .array items := by
    rcases indexes with ⟨part, -, list⟩ | absent
    · obtain ⟨_, items, -, same, -⟩ := readShape_list list
      exact ⟨items, same⟩
    · cases absent
      exact ⟨[], rfl⟩
  obtain ⟨entries, rfl, ascending, kept⟩ : ∃ entries, body = .object (named entries) ∧
      Ascending entries ∧ ∀ entry ∈ entries, IsSorted entry.2 ∧ entry.2.depth ≤ documentRoom := by
    rcases documents with ⟨part, -, numbered⟩ | absent
    · obtain ⟨room, entries, deeper, same, ascending, origin⟩ := readShape_numbered numbered
      refine ⟨entries, same, ascending, fun entry member => ?_⟩
      obtain ⟨tree, -, value⟩ := origin entry member
      have left : room = documentRoom := by
        rw [documentRoom]
        omega
      exact left ▸ Tree.value_sorted value
    · cases absent
      exact ⟨[], rfl, List.Pairwise.nil, fun _ member => absurd member List.not_mem_nil⟩
  exact ⟨_, entries, ofJson_object items entries, ascending, kept⟩

/-! ## Reading a file that was written -/

theorem mem_insertField {field other : String} {sorted : List String} :
    other ∈ insertField field sorted ↔ other = field ∨ other ∈ sorted := by
  induction sorted with
  | nil => simp [insertField]
  | cons head rest ih =>
      rw [insertField]
      split
      · rw [List.mem_cons, ih, List.mem_cons]
        exact or_left_comm
      · exact List.mem_cons

theorem mem_sortedFields {collection : Collection} {field : String} :
    field ∈ collection.sortedFields ↔ field ∈ collection.indexedFields := by
  unfold sortedFields
  suffices reached : ∀ (fields sorted : List String),
      field ∈ fields.foldl (fun sorted field => insertField field sorted) sorted ↔
        field ∈ fields ∨ field ∈ sorted by
    exact (reached _ []).trans (or_iff_left List.not_mem_nil)
  intro fields
  induction fields with
  | nil => simp
  | cons head rest ih =>
      intro sorted
      rw [List.foldl_cons, ih, mem_insertField, List.mem_cons]
      exact or_left_comm.trans or_assoc.symm

/-- A collection that a file can hold and give back. -/
structure Lasting (collection : Collection) : Prop where
  sound : collection.Sound
  word : collection.nextId < Decimal.words64
  storable : ∀ entry ∈ collection.documents, Storable entry.2

theorem toJson_eq (collection : Collection) : collection.toJson =
    .object [("indexes", .array (collection.sortedFields.map .string)),
      ("documents", .object (named collection.documents))] := rfl

theorem Lasting.isIntegral_toJson {collection : Collection} (lasting : collection.Lasting) :
    IsIntegral collection.toJson := by
  rw [toJson_eq]
  refine ⟨trivial, ⟨trivial, everyItem_iff.mpr fun item member => ?_⟩,
    ⟨trivial, everyMember_iff.mpr fun member found => ?_⟩, trivial⟩
  · obtain ⟨field, -, rfl⟩ := List.mem_map.mp member
    exact trivial
  · obtain ⟨entry, there, rfl⟩ := List.mem_map.mp found
    exact (lasting.storable entry there).integral

theorem readItems_of_spells {room : Nat} {trees : List Tree} {texts : List String}
    (spells : List.Forall₂ Tree.Spells trees (texts.map .string)) :
    readItems .text room trees = .ok (texts.map .string) := by
  induction texts generalizing trees with
  | nil =>
      cases spells
      rw [readItems]
      rfl
  | cons head rest ih =>
      cases spells with
      | cons first others =>
          cases first
          rw [readItems, ih others]
          rfl

theorem Lasting.isWord {collection : Collection} (lasting : collection.Lasting) :
    ∀ entry ∈ collection.documents, IsWord entry.1 := by
  intro entry member
  have positive : (0 : Int) ≤ entry.1 := Int.natCast_nonneg _
  have word : (entry.1 : Int) < Decimal.words64 :=
    Int.ofNat_lt.mpr ((lasting.sound.below entry member).trans lasting.word)
  exact ⟨(by decide : -(Decimal.half64 : Int) ≤ 0).trans positive, word⟩

theorem checkNumberedKey_of_spells {key : Key} {id : DocumentId} (spells : key.Spells (toString id))
    (word : IsWord id) : checkNumberedKey key = .ok id := by
  obtain ⟨numeral, closed⟩ := spells.numeral id rfl word
  have positive : ¬ ((id : Int) < 0) := Int.not_lt.mpr (Int.natCast_nonneg id)
  simp only [checkNumberedKey, numeral, closed, bind, Except.bind, pure, Except.pure]
  rw [if_neg positive]
  rfl

theorem readNumbered_of_spells {trees : List (Key × Tree)} {start documents :
    List (DocumentId × Json)} (ascending : Ascending (start ++ documents))
    (words : ∀ entry ∈ documents, IsWord entry.1)
    (storable : ∀ entry ∈ documents, Storable entry.2)
    (spells : List.Forall₂ SpellsMember trees (named documents)) :
    readNumbered documentRoom trees start = .ok (start ++ documents) := by
  induction documents generalizing trees start with
  | nil =>
      cases spells
      rw [readNumbered, List.append_nil]
  | cons entry rest ih =>
      obtain ⟨id, document⟩ := entry
      cases spells with
      | @cons tree _ trees _ first others =>
          obtain ⟨key, tree⟩ := tree
          obtain ⟨word, words⟩ := List.forall_mem_cons.mp words
          obtain ⟨kept, storable⟩ := List.forall_mem_cons.mp storable
          have numbered := checkNumberedKey_of_spells first.1 word
          have value := Tree.value_of_spells first.2 kept.shallow
          rw [sorted_eq_self kept.sorted] at value
          have above : ∀ earlier ∈ start, earlier.1 < id := fun earlier member =>
            (List.pairwise_append.mp ascending).2.2 earlier member (id, document) List.mem_cons_self
          rw [List.append_cons] at ascending ⊢
          rw [readNumbered]
          simp only [numbered, value, bind, Except.bind]
          rw [insertNumbered_eq_put, Ascending.put_of_above document above]
          exact ih ascending words storable others

theorem Lasting.readShape_of_spells {collection : Collection} (lasting : collection.Lasting)
    {root : Tree} (spells : root.Spells collection.toJson) :
    readShape shape maxDepth root = .ok collection.toJson := by
  rw [toJson_eq] at spells ⊢
  cases spells with
  | @object trees _ keys values =>
      have each := Tree.spells_object.mp (.object keys values)
      obtain ⟨⟨indexesKey, indexes⟩, _, first, further, rfl⟩ :=
        List.forall₂_cons_right_iff.mp each
      obtain ⟨⟨documentsKey, documents⟩, _, second, ended, rfl⟩ :=
        List.forall₂_cons_right_iff.mp further
      cases ended
      obtain ⟨indexesNamed, indexesSpells⟩ := first
      obtain ⟨documentsNamed, documentsSpells⟩ := second
      have list : readShape (.list .text) (documentRoom + 1) indexes =
          .ok (.array (collection.sortedFields.map .string)) := by
        cases indexesSpells with
        | array items =>
            rw [readShape]
            simp only [Shape.base, enter, bind, Except.bind, readItems_of_spells items]
            rfl
      have numbered : readShape .numbered (documentRoom + 1) documents =
          .ok (.object (named collection.documents)) := by
        cases documentsSpells with
        | object keys values =>
            have members := Tree.spells_object.mp (.object keys values)
            have read := @readNumbered_of_spells _ [] collection.documents
              lasting.sound.ascending lasting.isWord lasting.storable members
            rw [readShape]
            simp only [Shape.base, enter, bind, Except.bind, read]
            rfl
      have met : readMembers [.list "indexes" .text,
          .mk "documents" .numbered (.filled (.object []))] false (documentRoom + 1) []
          [(indexesKey, indexes), (documentsKey, documents)] =
            .ok ([("indexes", .array (collection.sortedFields.map .string)),
              ("documents", .object (named collection.documents))], []) := by
        have indexesRead : indexesKey.text.read = .ok "indexes" := by rw [indexesNamed.text]
        have indexesKnown : fieldOf [.list "indexes" .text,
            .mk "documents" .numbered (.filled (.object []))] "indexes" =
              some (.list "indexes" .text) := rfl
        have indexesUnmet : Json.lookup "indexes" [] = none := rfl
        have documentsRead : documentsKey.text.read = .ok "documents" := by
          rw [documentsNamed.text]
        have documentsKnown : fieldOf [.list "indexes" .text,
            .mk "documents" .numbered (.filled (.object []))] "documents" =
              some (.mk "documents" .numbered (.filled (.object []))) := rfl
        have documentsUnmet : Json.lookup "documents"
            ([] ++ [("indexes", .array (collection.sortedFields.map .string))]) = none := rfl
        rw [readMembers_cons indexesRead indexesKnown indexesUnmet list,
          readMembers_cons documentsRead documentsKnown documentsUnmet numbered, readMembers]
        rfl
      have entered : enter maxDepth = .ok (documentRoom + 1) := rfl
      rw [shape, readShape]
      simp only [Shape.base, entered, met, bind, Except.bind]
      rfl

/-- The collection that is made of the file of a collection. -/
def reloaded (collection : Collection) : Collection :=
  ofParts collection.sortedFields collection.documents

/-- A collection is read from the file that it was written to: the same documents, and indexes for
the same fields. -/
theorem Lasting.ofText_toText {collection : Collection} (lasting : collection.Lasting) :
    ofText collection.toText = .ok collection.reloaded := by
  obtain ⟨root, document, spells⟩ := document_pretty lasting.isIntegral_toJson
  have texts : (collection.sortedFields.map Json.string).filterMap Json.text? =
      collection.sortedFields := by
    rw [List.filterMap_map]
    exact List.filterMap_some
  have read : parseAs shape collection.toText = .ok collection.toJson := by
    rw [toText, parseAs, document, Document.read]
    simp only [lasting.readShape_of_spells spells, bind, Except.bind]
    rfl
  rw [ofText, read, toJson_eq, Except.map, ofJson_object, texts, reloaded]

@[simp] theorem reloaded_documents (collection : Collection) :
    collection.reloaded.documents = collection.documents := ofParts_documents _ _

theorem reloaded_isIndexed (collection : Collection) (field : String) :
    collection.reloaded.isIndexed field = collection.isIndexed field := by
  rw [Bool.eq_iff_iff, isIndexed_iff, isIndexed_iff, reloaded, mem_ofParts, mem_sortedFields]

theorem Sound.reloaded_nextId {collection : Collection} (sound : collection.Sound) :
    collection.reloaded.nextId = collection.nextId := by
  rw [reloaded, ofParts_nextId, sound.next]

theorem Sound.reloaded {collection : Collection} (sound : collection.Sound) :
    collection.reloaded.Sound := sound_ofParts _ sound.ascending

theorem Sound.reloaded_find {collection : Collection} (sound : collection.Sound)
    (field key : String) : collection.reloaded.find field key = collection.find field key := by
  rw [sound.reloaded.find_eq_matching, sound.find_eq_matching, reloaded_documents]

end Collection

end NetConsole.Store
