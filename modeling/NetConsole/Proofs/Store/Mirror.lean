import NetConsole.Proofs.Records.Documents
import NetConsole.Proofs.Store.Changes
import Mathlib.Data.List.Nodup

/-!
# Mirrors of fetched records

Records are added to a collection unless their id is there. So a collection that records were only
ever added to in this way holds the first record of each id, whatever was added in which order and
how often.
-/

set_option autoImplicit false

namespace NetConsole.Store

open Json

/-! ## First records -/

/-- Records with one more, unless there is one with its id. -/
def addNew (held : List (String × Json)) (record : String × Json) : List (String × Json) :=
  if record.1 ∈ held.map Prod.fst then held else held ++ [record]

/-- The first record of each id. -/
def firsts (records : List (String × Json)) : List (String × Json) := records.foldl addNew []

theorem firsts_append (before after : List (String × Json)) :
    firsts (before ++ after) = after.foldl addNew (firsts before) := List.foldl_append

theorem nodup_foldl_addNew {held : List (String × Json)} (distinct : (held.map Prod.fst).Nodup)
    (records : List (String × Json)) : ((records.foldl addNew held).map Prod.fst).Nodup := by
  induction records generalizing held with
  | nil => exact distinct
  | cons record rest ih =>
      refine ih ?_
      unfold addNew
      split
      case isTrue => exact distinct
      case isFalse fresh =>
        rw [List.map_append]
        exact List.nodup_append.mpr ⟨distinct, List.nodup_singleton _, fun id member other last => by
          rw [List.mem_singleton.mp last]
          intro same
          subst same
          exact fresh member⟩

theorem find?_isSome_iff {records : List (String × Json)} {id : String} :
    (records.find? (·.1 == id)).isSome = true ↔ id ∈ records.map Prod.fst := by
  rw [List.find?_isSome, List.mem_map]
  constructor
  · intro given
    obtain ⟨record, member, same⟩ := given
    exact ⟨record, member, beq_iff_eq.mp same⟩
  · intro given
    obtain ⟨record, member, same⟩ := given
    exact ⟨record, member, beq_iff_eq.mpr same⟩

/-- Under an id there is the record that was there, or else the first that was added. -/
theorem find?_foldl_addNew (held records : List (String × Json)) (id : String) :
    (records.foldl addNew held).find? (·.1 == id) =
      (held.find? (·.1 == id)).or (records.find? (·.1 == id)) := by
  induction records generalizing held with
  | nil => rw [List.foldl_nil, List.find?_nil, Option.or_none]
  | cons record rest ih =>
      rw [List.foldl_cons, ih, List.find?_cons]
      unfold addNew
      split
      case isTrue present =>
        cases same : record.1 == id with
        | false => rfl
        | true =>
            obtain rfl : record.1 = id := beq_iff_eq.mp same
            obtain ⟨earlier, found⟩ := Option.isSome_iff_exists.mp (find?_isSome_iff.mpr present)
            rw [found]
            rfl
      case isFalse fresh =>
        rw [List.find?_append, List.find?_singleton, Option.or_assoc]
        cases same : record.1 == id with
        | false => rfl
        | true => rfl

theorem find?_firsts (records : List (String × Json)) (id : String) :
    (firsts records).find? (·.1 == id) = records.find? (·.1 == id) :=
  find?_foldl_addNew [] records id

theorem nodup_firsts (records : List (String × Json)) : ((firsts records).map Prod.fst).Nodup :=
  nodup_foldl_addNew (show (([] : List (String × Json)).map Prod.fst).Nodup from List.nodup_nil)
    records

theorem mem_ids_firsts {records : List (String × Json)} {id : String} :
    id ∈ (firsts records).map Prod.fst ↔ id ∈ records.map Prod.fst := by
  rw [← find?_isSome_iff, find?_firsts, find?_isSome_iff]

theorem find?_of_mem_firsts {records : List (String × Json)} {record : String × Json}
    (member : record ∈ firsts records) : records.find? (·.1 == record.1) = some record := by
  rw [← find?_firsts]
  cases found : (firsts records).find? (·.1 == record.1) with
  | none =>
      have missing := List.find?_eq_none.mp found record member
      exact absurd (beq_self_eq_true record.1) missing
  | some other =>
      have same : other.1 = record.1 := by simpa using List.find?_some found
      rw [List.inj_on_of_nodup_map (nodup_firsts records) (List.mem_of_find?_eq_some found) member
        same]

theorem mem_of_mem_firsts {records : List (String × Json)} {record : String × Json}
    (member : record ∈ firsts records) : record ∈ records :=
  List.mem_of_find?_eq_some (find?_of_mem_firsts member)

/-! ## Documents of first records -/

/-- Documents mirror fetched records: no two have the same id, the ids are those of the records, and
each document is the first record that was fetched with its id. -/
structure Mirrors (fetched : List (String × Json)) (documents : List Json) : Prop where
  distinct : (documents.map (·.get? "_id")).Nodup
  ids : ∀ id, some (.string id) ∈ documents.map (·.get? "_id") ↔ id ∈ fetched.map Prod.fst
  first : ∀ document ∈ documents, ∃ id, document.get? "_id" = some (.string id) ∧
    fetched.find? (·.1 == id) = some (id, document)

theorem ids_of_keepable {records : List (String × Json)}
    (keepable : ∀ record ∈ records, Keepable record.1 record.2) :
    (records.map Prod.snd).map (·.get? "_id") =
      (records.map Prod.fst).map fun id => some (.string id) := by
  rw [List.map_map, List.map_map]
  exact List.map_congr_left fun record member => (keepable record member).identified

theorem mirrors_firsts {fetched : List (String × Json)}
    (keepable : ∀ record ∈ fetched, Keepable record.1 record.2) :
    Mirrors fetched ((firsts fetched).map Prod.snd) := by
  have injective : Function.Injective fun id => some (Json.string id) := by
    intro one two same
    cases same
    rfl
  have ids := ids_of_keepable fun record member => keepable record (mem_of_mem_firsts member)
  constructor
  case distinct =>
    rw [ids]
    exact (nodup_firsts fetched).map injective
  case ids =>
    intro id
    rw [ids, List.mem_map_of_injective injective]
    exact mem_ids_firsts
  case first =>
    intro document member
    obtain ⟨record, there, rfl⟩ := List.mem_map.mp member
    exact ⟨record.1, (keepable record (mem_of_mem_firsts there)).identified,
      find?_of_mem_firsts there⟩

/-! ## Adding records -/

/-- A collection holds records, and nothing else. -/
def Collection.Holds (collection : Collection) (records : List (String × Json)) : Prop :=
  collection.documents.map Prod.snd = records.map Prod.snd

theorem Collection.Sound.find_isEmpty {collection : Collection} (sound : collection.Sound)
    {held : List (String × Json)} (holds : collection.Holds held)
    (keepable : ∀ record ∈ held, Keepable record.1 record.2) (id : String) :
    (collection.find "_id" id).isEmpty = true ↔ id ∉ held.map Prod.fst := by
  have key : ∀ record ∈ held, fieldKey? "_id" record.2 = some record.1 := fun record member => by
    rw [fieldKey?, (keepable record member).identified]
    rfl
  have matched : (∃ number, number ∈ matching collection.documents "_id" id) ↔
      id ∈ held.map Prod.fst := by
    constructor
    · intro given
      obtain ⟨number, found⟩ := given
      obtain ⟨document, entry, same⟩ := mem_matching.mp found
      have inside : document ∈ held.map Prod.snd := by
        rw [← holds]
        exact List.mem_map_of_mem entry
      obtain ⟨record, there, rfl⟩ := List.mem_map.mp inside
      rw [key record there] at same
      cases same
      exact List.mem_map_of_mem there
    · intro member
      obtain ⟨record, there, rfl⟩ := List.mem_map.mp member
      have inside : record.2 ∈ collection.documents.map Prod.snd := by
        rw [holds]
        exact List.mem_map_of_mem there
      obtain ⟨entry, found, same⟩ := List.mem_map.mp inside
      refine ⟨entry.1, mem_matching.mpr ⟨entry.2, found, ?_⟩⟩
      rw [same]
      exact key record there
  rw [sound.find_eq_matching, List.isEmpty_iff, List.eq_nil_iff_forall_not_mem, ← matched,
    not_exists]

/-- A record is added unless there is one with its id. -/
theorem Collection.Sound.holds_considered {collection : Collection} (sound : collection.Sound)
    {held : List (String × Json)} (holds : collection.Holds held)
    (keepable : ∀ record ∈ held, Keepable record.1 record.2) (report : Report)
    (record : String × Json) :
    (considered "_id" (report, collection) record).2.Holds (addNew held record) := by
  have empty := sound.find_isEmpty holds keepable record.1
  rw [considered, addNew]
  by_cases present : record.1 ∈ held.map Prod.fst
  · rw [if_pos present, if_neg fun nothing => empty.mp nothing present]
    exact holds
  · rw [if_neg present, if_pos (empty.mpr present), Holds, sound.added_documents, List.map_append,
      List.map_append, holds]
    rfl

theorem Collection.holds_upsert {count : Nat} {records : List (String × Json)}
    {collection : Collection} (spacious : collection.Spacious (count + records.length))
    {held : List (String × Json)} (holds : collection.Holds held)
    (heldKeepable : ∀ record ∈ held, Keepable record.1 record.2)
    (keepable : ∀ record ∈ records, Keepable record.1 record.2) (report : Report) :
    (records.foldl (considered "_id") (report, collection)).2.Holds
      (records.foldl addNew held) := by
  induction records generalizing report collection held with
  | nil => exact holds
  | cons record rest ih =>
      obtain ⟨first, others⟩ := List.forall_mem_cons.mp keepable
      have kept : ∀ other ∈ addNew held record, Keepable other.1 other.2 := by
        intro other member
        unfold addNew at member
        split at member
        · exact heldKeepable other member
        · rcases List.mem_append.mp member with before | last
          · exact heldKeepable other before
          · rw [List.mem_singleton.mp last]
            exact first
      have storable : ∀ one ∈ [record], Storable one.2 := by
        intro one member
        rw [List.mem_singleton.mp member]
        exact first.storable
      have room : collection.Spacious (count + rest.length + [record].length) := spacious
      exact ih (room.upsert storable report)
        (spacious.lasting.sound.holds_considered holds heldKeepable report record) kept others _

/-- The store with records added to a collection, each unless its id is there. -/
def withRecords (store : Store) (name : String) (records : List (String × Json)) : Store :=
  store.put name ((store.upsertTarget name "_id").upserted "_id" records).2

/-- Under a valid name records are added, or else there are no numbers left for them. -/
theorem upsert_records {name : String} (valid : isValidName name = true) (store : Store)
    (records : List (String × Json)) :
    (∃ report, store.upsert name "_id" records = .ok (report, store.withRecords name records)) ∨
      store.upsert name "_id" records = .error .overflow := by
  rw [upsert_eq valid]
  dsimp only
  split
  case isTrue => exact .inl ⟨_, rfl⟩
  case isFalse => exact .inr rfl

end NetConsole.Store
