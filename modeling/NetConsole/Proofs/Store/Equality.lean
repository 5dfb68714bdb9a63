import NetConsole.Proofs.Json.Unambiguous
import NetConsole.Proofs.Store.Growth
import NetConsole.Store.Basic

/-!
# Queries and equality

A query compares keys, and a string has the same key as any other value whose text it is. Apart from
that a key belongs to one value, so a query finds the documents that hold the value, and besides
these the ones that hold an imitation of it.
-/

set_option autoImplicit false

namespace NetConsole

/-- A string that is the text of a value which is no string. -/
def Json.Imitates (one other : Json) : Prop := one = .string other.compact ∧ other.text? = none

instance (one other : Json) : Decidable (one.Imitates other) := inferInstanceAs (Decidable (_ ∧ _))

namespace Store

open Json

/-! ## Keys -/

theorem not_imitates_self (value : Json) : ¬ value.Imitates value := by
  rintro ⟨isText, noText⟩
  rw [isText] at noText
  cases noText

theorem keyOf_of_no_string {value : Json} (other : value.text? = none) :
    keyOf value = value.compact := by
  cases value with
  | string s => cases other
  | null | bool | number | array | object => rfl

theorem string_or_not (value : Json) : (∃ s, value = .string s) ∨ value.text? = none := by
  cases value with
  | string s => exact .inl ⟨s, rfl⟩
  | null | bool | number | array | object => exact .inr rfl

theorem ne_string {value : Json} (other : value.text? = none) (s : String) : value ≠ .string s := by
  rintro rfl
  cases other

/-- Two values have the same key if they are equal or one is a string that imitates the other. -/
theorem keyOf_eq_iff {held value : Json} (integral : IsIntegral value) :
    keyOf held = keyOf value ↔ held = value ∨ held.Imitates value ∨ value.Imitates held := by
  rcases string_or_not held with ⟨s, rfl⟩ | heldOther
  · rcases string_or_not value with ⟨t, rfl⟩ | valueOther
    · simp [keyOf, Imitates, text?]
    · rw [keyOf_of_no_string valueOther]
      simp only [keyOf, Imitates, valueOther, (ne_string valueOther _).symm, ne_string valueOther,
        string.injEq, and_true, false_and, or_false, false_or]
  · rcases string_or_not value with ⟨t, rfl⟩ | valueOther
    · rw [keyOf_of_no_string heldOther]
      simp only [keyOf, Imitates, heldOther, ne_string heldOther, string.injEq, and_true,
        false_and, false_or]
      exact eq_comm
    · rw [keyOf_of_no_string heldOther, keyOf_of_no_string valueOther]
      simp only [Imitates, ne_string heldOther, ne_string valueOther, false_and, or_false]
      rw [eq_comm, compact_eq_iff integral]
      exact eq_comm

open Collection

/-! ## Queries -/

/-- A query finds the documents whose field holds the value, or holds a string that imitates the
value, or a value that the string asked for imitates. So it is a query for the value exactly as long
as nothing of the kind is in the field of any document, be the field indexed or not. -/
theorem query_grown {store : Store} {name : String} {start collection : Collection}
    (origin : start.Origin) {growths : List Growth} (grew : start.grown growths = .ok collection)
    (held : store.collection? name = some collection) (field : String)
    {value : Json} (integral : IsIntegral value) :
    ∃ ids, store.query name field value = .ok ids ∧ ids.Pairwise (· < ·) ∧
      (∀ id, id ∈ ids ↔ ∃ document found, (id, document) ∈ collection.documents ∧
        document.get? field = some found ∧
          (found = value ∨ found.Imitates value ∨ value.Imitates found)) ∧
      ((∀ id, id ∈ ids ↔ ∃ document, (id, document) ∈ collection.documents ∧
          document.get? field = some value) ↔
        ∀ entry ∈ collection.documents, ∀ found, entry.2.get? field = some found →
          ¬ found.Imitates value ∧ ¬ value.Imitates found) := by
  have sound : collection.Sound := origin.sound_grown grew
  have answer : store.query name field value =
      .ok (matching collection.documents field (keyOf value)) := by
    rw [← sound.find_eq_matching]
    simp [query, Store.collection, held, bind, Except.bind, pure, Except.pure]
  have ascending := sound.ascending
  generalize collection.documents = documents at *
  have mem : ∀ id, id ∈ matching documents field (keyOf value) ↔
      ∃ document found, (id, document) ∈ documents ∧ document.get? field = some found ∧
        (found = value ∨ found.Imitates value ∨ value.Imitates found) := by
    intro id
    simp only [mem_matching_value, keyOf_eq_iff integral]
  refine ⟨_, answer, matching_ascending ascending field _, mem, ?_⟩
  constructor
  · intro exactly entry member found there
    have only : found = value ∨ found.Imitates value ∨ value.Imitates found → found = value := by
      intro alike
      obtain ⟨document, inside, same⟩ := (exactly entry.1).mp ((mem entry.1).mpr
        ⟨entry.2, found, member, there, alike⟩)
      have one : (entry.1, document) = entry := ascending.eq_of_mem inside member rfl
      rw [← one, same] at there
      exact (Option.some.inj there).symm
    constructor
    · intro imitates
      obtain rfl := only (.inr (.inl imitates))
      exact not_imitates_self _ imitates
    · intro imitates
      obtain rfl := only (.inr (.inr imitates))
      exact not_imitates_self _ imitates
  · intro apart id
    rw [mem]
    constructor
    · intro given
      obtain ⟨document, found, member, there, rfl | imitates | imitates⟩ := given
      · exact ⟨document, member, there⟩
      · exact absurd imitates (apart _ member found there).1
      · exact absurd imitates (apart _ member found there).2
    · intro given
      obtain ⟨document, member, there⟩ := given
      exact ⟨document, value, member, there, .inl rfl⟩

theorem query_grown_sample :
    let start : Collection := ofParts ["k"] [(7, .object [("k", .string "1")]),
      (9, .object [("k", .array [.number (.integer 1)])])]
    let growths : List Growth := [.insert (.object [("k", .number (.integer 1))]), .index "m"]
    ∃ collection, start.grown growths = .ok collection ∧ collection.isIndexed "k" = true ∧
      ∃ ids, (inMemory.put "C" collection).query "C" "k" (.array [.number (.integer 1)]) = .ok ids ∧
        ids.Pairwise (· < ·) ∧ ∀ id, id ∈ ids ↔ ∃ document,
          (id, document) ∈ collection.documents ∧
            document.get? "k" = some (.array [.number (.integer 1)]) := by
  intro start growths
  have origin : start.Origin := .parts _ _ (by simp [Ascending])
  have grew : start.grown growths = .ok (start.extended growths) := by decide +kernel
  have held : (inMemory.put "C" (start.extended growths)).collection? "C" =
      some (start.extended growths) := by
    decide +kernel
  have integral : IsIntegral (.array [.number (.integer 1)]) :=
    ⟨trivial, show Whole (.number (.integer 1)) by decide, trivial⟩
  obtain ⟨ids, answer, ascending, -, exactly⟩ := query_grown origin grew held "k" integral
  have apart : ∀ entry ∈ (start.extended growths).documents, ∀ found ∈ entry.2.get? "k",
      ¬ found.Imitates (.array [.number (.integer 1)]) ∧
        ¬ Json.Imitates (.array [.number (.integer 1)]) found := by
    decide +kernel
  exact ⟨_, grew, by decide +kernel, ids, answer, ascending, exactly.mpr apart⟩

/-- A string and the number that prints like it are found for one another, by a scan and by an
index. -/
theorem query_takes_text_for_number :
    let documents := [Json.object [("f", .number (.integer 1))], .object [("f", .string "1")]]
    ∃ scanned indexed, Collection.empty.grown (documents.map .insert) = .ok scanned ∧
      Collection.empty.grown (documents.map .insert ++ [.index "f"]) = .ok indexed ∧
      (inMemory.put "C" scanned).query "C" "f" (.string "1") = .ok [1, 2] ∧
      (inMemory.put "C" indexed).query "C" "f" (.number (.integer 1)) = .ok [1, 2] ∧
      (documents.map (Json.get? "f" ·)) = [some (.number (.integer 1)), some (.string "1")] := by
  intro documents
  refine ⟨Collection.empty.extended (documents.map .insert),
    Collection.empty.extended (documents.map .insert ++ [.index "f"]), ?_⟩
  decide +kernel

end Store

end NetConsole
