import NetConsole.Proofs.Store.Growth
import NetConsole.Proofs.Store.Upsert

/-!
# Upserts by key

An upsert goes through its records and asks the index that it is adding to. What it adds is the
first record of each key that no document had; a key that was ever found is found from then on, so
the same records add nothing a second time, and records can come at once or in parts.
-/

set_option autoImplicit false

namespace NetConsole.Store

open Json

/-! ## Reports -/

/-- Two reports as one. -/
def Report.plus (one two : Report) : Report :=
  ⟨one.inserted + two.inserted, one.existing + two.existing⟩

namespace Collection

section

variable {field : String} {collection : Collection} {records : List (String × Json)}

theorem considered_plus (base report : Report) (record : String × Json) :
    considered field (base.plus report, collection) record =
      let after := considered field (report, collection) record
      (base.plus after.1, after.2) := by
  rw [considered, considered]
  cases (collection.find field record.1).isEmpty <;> rfl

theorem upserted_append (field : String) (collection : Collection)
    (first second : List (String × Json)) :
    collection.upserted field (first ++ second) =
      let one := collection.upserted field first
      let two := one.2.upserted field second
      (one.1.plus two.1, two.2) := by
  have shifted := @List.foldl_hom _ _ _
    (fun state : Report × Collection => ((collection.upserted field first).1.plus state.1, state.2))
    (considered field) (considered field) second (⟨0, 0⟩, (collection.upserted field first).2)
    fun state record => considered_plus _ state.1 record
  rw [upserted, List.foldl_append]
  exact shifted

theorem upserted_concat (field : String) (collection : Collection) (before : List (String × Json))
    (record : String × Json) : collection.upserted field (before ++ [record]) =
      considered field (collection.upserted field before) record := List.foldl_concat _ _ _ _

theorem le_upserted_nextId (field : String) (collection : Collection)
    (records : List (String × Json)) :
    collection.nextId ≤ (collection.upserted field records).2.nextId :=
  (counting_upsertOne field).le_foldl records (⟨0, 0⟩, collection)

/-- Every record is counted once. -/
theorem upserted_total (field : String) (collection : Collection)
    (records : List (String × Json)) :
    (collection.upserted field records).1.inserted +
      (collection.upserted field records).1.existing = records.length := by
  induction records using List.reverseRecOn with
  | nil => rfl
  | append_singleton before record ih =>
      rw [upserted_concat, considered, List.length_append, List.length_singleton, ← ih]
      split
      case isTrue => exact Nat.add_right_comm _ _ _
      case isFalse => exact (Nat.add_assoc _ _ _).symm

/-! ## Known keys -/

theorem insertId_ne_nil (id : DocumentId) (ids : List DocumentId) : Index.insertId id ids ≠ [] := by
  cases ids with
  | nil => exact List.cons_ne_nil _ _
  | cons head rest =>
      rw [Index.insertId]
      split
      · exact List.cons_ne_nil _ _
      · split <;> exact List.cons_ne_nil _ _

theorem addIndex_of_isIndexed (indexed : collection.isIndexed field = true) :
    collection.addIndex field = collection := if_pos indexed

theorem isIndexed_addIndex (collection : Collection) (field : String) :
    (collection.addIndex field).isIndexed field = true :=
  isIndexed_iff.mpr (mem_addIndex.mpr (.inl rfl))

theorem isIndexed_added (collection : Collection) (document : Json) (field : String) :
    (collection.added document).isIndexed field = collection.isIndexed field := by
  rw [isIndexed, added_indexes, List.any_map]
  rfl

/-- The index of a field takes note of each document that is added. -/
theorem find_added (indexed : collection.isIndexed field = true) (document : Json)
    (key : String) : (collection.added document).find field key =
      if fieldKey? field document = some key then
        Index.insertId collection.nextId (collection.find field key)
      else collection.find field key := by
  obtain ⟨⟨name, index⟩, found⟩ := Option.isSome_iff_exists.mp
    (List.find?_isSome.mpr (List.any_eq_true.mp indexed))
  obtain rfl : name = field := by simpa using List.find?_some found
  have later : (collection.added document).indexes.find? (·.1 == name) =
      some (name, index.note name collection.nextId document) := by
    rw [added_indexes, List.find?_map]
    exact congrArg (Option.map _) found
  rw [find, later, find, found]
  dsimp only [Index.note]
  cases own : fieldKey? name document with
  | none => rw [if_neg nofun]
  | some other =>
      dsimp only
      rw [Index.find_add]
      by_cases same : key = other
      · subst same
        rw [if_pos rfl, if_pos rfl]
      · rw [if_neg same, if_neg fun equal => same (Option.some.inj equal).symm]

/-- With an index for the field, a key that is found once is found ever after, and so is the key of
the record that was considered last. -/
theorem find_considered (indexed : collection.isIndexed field = true) (report : Report)
    {record : String × Json} (keyed : fieldKey? field record.2 = some record.1) :
    (considered field (report, collection) record).2.isIndexed field = true ∧
      ∀ key, collection.find field key ≠ [] ∨ key = record.1 →
        (considered field (report, collection) record).2.find field key ≠ [] := by
  rw [considered]
  split
  case isTrue =>
    refine ⟨(isIndexed_added _ _ _).trans indexed, fun key known => ?_⟩
    dsimp only
    rw [find_added indexed]
    split
    case isTrue => exact insertId_ne_nil _ _
    case isFalse other =>
      rcases known with found | rfl
      · exact found
      · exact absurd keyed other
  case isFalse present =>
    refine ⟨indexed, fun key known => ?_⟩
    rcases known with found | rfl
    · exact found
    · exact mt List.isEmpty_iff.mpr present

theorem find_upserted (indexed : collection.isIndexed field = true) (keyed : Keyed field records) :
    (collection.upserted field records).2.isIndexed field = true ∧
      ∀ record ∈ records, (collection.upserted field records).2.find field record.1 ≠ [] := by
  induction records using List.reverseRecOn with
  | nil => exact ⟨indexed, fun _ member => absurd member List.not_mem_nil⟩
  | append_singleton before record ih =>
      have last : fieldKey? field record.2 = some record.1 :=
        keyed record (List.mem_append_right _ List.mem_cons_self)
      obtain ⟨stillIndexed, known⟩ := ih fun other member =>
        keyed other (List.mem_append_left _ member)
      rw [upserted_concat]
      obtain ⟨afterIndexed, later⟩ := find_considered stillIndexed
        (collection.upserted field before).1 last
      refine ⟨afterIndexed, fun other member => later other.1 ?_⟩
      rcases List.mem_append.mp member with earlier | isLast
      · exact .inl (known other earlier)
      · exact .inr (congrArg Prod.fst (List.mem_singleton.mp isLast))

/-- Records whose keys are found are counted, and nothing else happens. -/
theorem upserted_of_known
    (known : ∀ record ∈ records, collection.find field record.1 ≠ []) :
    collection.upserted field records = (⟨0, records.length⟩, collection) := by
  induction records using List.reverseRecOn with
  | nil => rfl
  | append_singleton before record ih =>
      have found : collection.find field record.1 ≠ [] :=
        known record (List.mem_append_right _ List.mem_cons_self)
      rw [upserted_concat, ih fun other member => known other (List.mem_append_left _ member),
        considered, if_neg (mt List.isEmpty_iff.mp found), List.length_append,
        List.length_singleton]

end

end Collection

/-! ## Upserts into stores -/

/-- A store that goes on from an upsert of the same field. -/
theorem upsert_put {store : Store} (ascending : Ascending store.collections) {name : String}
    (valid : isValidName name = true) {field : String} {collection : Collection}
    (indexed : collection.isIndexed field = true) (records : List (String × Json))
    (reached : Reaches collection.nextId (collection.upserted field records).2.nextId) :
    (store.put name collection).upsert name field records =
      let added := collection.upserted field records
      .ok (added.1, store.put name added.2) := by
  have target : (store.put name collection).upsertTarget name field = collection := by
    rw [upsertTarget, put_collection? ascending, if_pos rfl]
    exact Collection.addIndex_of_isIndexed indexed
  rw [upsert_eq valid, target]
  simp only [put_put, if_pos reached]

open Collection in
/-- With numbers left for it, an upsert counts every record once and puts the first record of each
key that no document has after the documents, under consecutive numbers. The same records add
nothing a second time, and records that come in two parts make the same store with reports that add
up. Without numbers left the program breaks off. -/
theorem upsert_arrivals {store : Store} (ascending : Ascending store.collections) {name : String}
    (valid : isValidName name = true) {start collection : Collection} (origin : start.Origin)
    {growths : List Growth} (grew : start.grown growths = .ok collection)
    (held : (store.collection? name).getD .empty = collection) {field : String}
    {records : List (String × Json)} (keyed : Keyed field records) :
    let arrived := arrivals field collection.documents records
    (Reaches collection.nextId (collection.nextId + arrived.length) →
      ∃ report after,
        store.upsert name field records = .ok (report, store.put name after) ∧
        report.inserted + report.existing = records.length ∧
        report.inserted = arrived.length ∧
        after.documents =
          collection.documents ++ numbered collection.nextId (arrived.map Prod.snd) ∧
        (store.put name after).upsert name field records =
          .ok (⟨0, records.length⟩, store.put name after) ∧
        ∀ first second, records = first ++ second → ∃ one two between,
          store.upsert name field first = .ok (one, between) ∧
          between.upsert name field second = .ok (two, store.put name after) ∧
          report = one.plus two) ∧
    (¬ Reaches collection.nextId (collection.nextId + arrived.length) →
      store.upsert name field records = .error .overflow) := by
  intro arrived
  have target : store.upsertTarget name field = collection.addIndex field := by
    rw [upsertTarget, held]
  have indexed : (collection.addIndex field).isIndexed field = true := isIndexed_addIndex _ _
  have added := ((origin.sound_grown grew).addIndex field).added_upserted keyed
  obtain ⟨-, documents, nextId, inserted⟩ := added
  rw [addIndex_documents] at documents nextId inserted
  rw [addIndex_nextId] at documents nextId
  have upserts := upsert_eq valid store field records
  rw [target] at upserts
  dsimp only at upserts
  rw [addIndex_nextId, nextId] at upserts
  refine ⟨fun reached => ?left, fun broken => upserts.trans (if_neg broken)⟩
  case left =>
    refine ⟨_, _, upserts.trans (if_pos reached), upserted_total _ _ _, inserted, documents,
      ?again, ?parts⟩
    case again =>
      obtain ⟨stillIndexed, known⟩ := find_upserted indexed keyed
      have nothing := upserted_of_known known
      rw [upsert_put ascending valid stillIndexed records (.inl (by rw [nothing])), nothing]
    case parts =>
      have whole : Reaches (collection.addIndex field).nextId
          ((collection.addIndex field).upserted field records).2.nextId := by
        rw [addIndex_nextId, nextId]
        exact reached
      intro first second split
      subst split
      have firstIndexed := (find_upserted indexed fun record member =>
        keyed record (List.mem_append_left _ member)).1
      have upsertsFirst := upsert_eq valid store field first
      rw [target] at upsertsFirst
      -- the number that is next after the first part lies between those before and after both
      have low := le_upserted_nextId field (collection.addIndex field) first
      have high := le_upserted_nextId field ((collection.addIndex field).upserted field first).2
        second
      rw [upserted_append] at whole ⊢
      obtain ⟨reachedFirst, reachedSecond⟩ := whole.split low high
      exact ⟨_, _, _, upsertsFirst.trans (if_pos reachedFirst),
        upsert_put ascending valid firstIndexed second reachedSecond, rfl⟩

/-- Two of the keys belong to documents, to one of them as a number, and one comes twice. -/
theorem upsert_arrivals_sample :
    let start : Collection := .ofParts ["k"] [(7, .array []), (9, .object [("m", .string "1")])]
    let growths : List Collection.Growth := [.insert (.object [("m", .number (.integer 2))])]
    let collection := start.extended growths
    let store : Store := ⟨none, [("a", .empty), ("net", collection), ("z", .empty)]⟩
    let record : String → Int → String × Json := fun key place =>
      (key, .object [("m", .string key), ("place", .number (.integer place))])
    let records : List (String × Json) :=
      [record "2" 0, record "5" 1, record "1" 2, record "5" 3, record "6" 4]
    Ascending store.collections ∧ isValidName "net" = true ∧ start.Origin ∧
      start.grown growths = .ok collection ∧
      (store.collection? "net").getD .empty = collection ∧ Keyed "m" records ∧
      ∃ after,
        store.upsert "net" "m" records = .ok (⟨2, 3⟩, store.put "net" after) ∧
        after.documents =
          collection.documents ++ [(11, (record "5" 1).2), (12, (record "6" 4).2)] ∧
        (store.put "net" after).upsert "net" "m" records =
          .ok (⟨0, 5⟩, store.put "net" after) := by
  intro start growths collection store record records
  have ascending : Ascending store.collections := by
    unfold Ascending
    decide +kernel
  have valid : isValidName "net" = true := by decide +kernel
  have origin : start.Origin := .parts _ _ (by simp [Ascending])
  have grew : start.grown growths = .ok collection := by decide +kernel
  have held : (store.collection? "net").getD .empty = collection := by decide +kernel
  have keyed : Keyed "m" records := by
    unfold Keyed
    decide +kernel
  obtain ⟨report, after, added, total, inserted, documents, again, -⟩ :=
    (upsert_arrivals ascending valid origin grew held keyed).1 (by decide +kernel)
  have two : report.inserted = 2 := inserted.trans (by decide +kernel)
  have three : report.existing = 3 := by
    have five : report.inserted + report.existing = 5 := total
    omega
  obtain rfl : report = ⟨2, 3⟩ := by
    rw [← two, ← three]
  exact ⟨ascending, valid, origin, grew, held, keyed, after, added,
    documents.trans (by decide +kernel), again⟩

end NetConsole.Store
