import NetConsole.Proofs.Store.Directory
import NetConsole.Proofs.Store.Growth

/-!
# Numbering documents

The next document gets the number after the highest one. As long as an insert returns, the document
has a number above all others and every document keeps its own. The insert that gives away the last
word does not return, for there is no number left to come next.
-/

set_option autoImplicit false

namespace NetConsole.Store.Collection

open Json

/-- The highest number of a document; zero if there are none. -/
def highest (collection : Collection) : DocumentId :=
  (collection.documents.getLast?.map (·.1)).getD 0

/-- The collection after documents were inserted one by one. -/
def inserted (collection : Collection) (documents : List Json) : Except Error Collection :=
  collection.grown (documents.map .insert)

/-- An insert that loses nothing: the document gets a number above all others, is found under it,
and every other document is found as before. -/
structure Fresh (before : Collection) (document : Json) (id : DocumentId) (after : Collection) :
    Prop where
  above : ∀ entry ∈ before.documents, entry.1 < id
  found : after.get? id = some document
  kept : ∀ other held, before.get? other = some held → after.get? other = some held

/-- Inserts one by one that lose nothing: each of them returns and is fresh, and what was stored
before any of them is found in the end. -/
structure KeepsAll (start : Collection) (documents : List Json) : Prop where
  fresh : ∀ earlier document later, documents = earlier ++ document :: later →
    ∃ before id after, start.inserted earlier = .ok before ∧
      before.insert document = .ok (id, after) ∧ before.Fresh document id after
  kept : ∀ earlier later, documents = earlier ++ later →
    ∃ before after, start.inserted earlier = .ok before ∧ start.inserted documents = .ok after ∧
      ∀ id held, before.get? id = some held → after.get? id = some held

/-! ## One insert -/

theorem Sound.nextId_eq {collection : Collection} (sound : collection.Sound) :
    collection.nextId = collection.highest + 1 := by
  rw [sound.next, nextAfter, highest]
  cases collection.documents.getLast? <;> rfl

theorem Sound.get?_added {collection : Collection} (sound : collection.Sound) (document : Json)
    (id : DocumentId) : (collection.added document).get? id =
      if id = collection.nextId then some document else collection.get? id := by
  have put := sound.ascending.find?_put collection.nextId document id
  rw [← insertNumbered_eq_put] at put
  unfold get?
  change Option.map _ ((insertNumbered collection.nextId document _).find? _) = _
  rw [put]
  split <;> rfl

theorem Sound.fresh {collection : Collection} (sound : collection.Sound) (document : Json) :
    collection.Fresh document collection.nextId (collection.added document) := by
  constructor
  case above => exact sound.below
  case found => exact (sound.get?_added document _).trans (if_pos rfl)
  case kept =>
    intro id held before
    obtain ⟨entry, there, -⟩ := Option.map_eq_some_iff.mp before
    have named : entry.1 = id := by simpa using List.find?_some there
    have less := sound.below entry (List.mem_of_find?_eq_some there)
    rw [sound.get?_added, if_neg (named ▸ less.ne)]
    exact before

/-! ## Inserts one by one -/

theorem inserted_cons (start : Collection) (document : Json) (rest : List Json) :
    start.inserted (document :: rest) =
      (start.insert document).bind fun (_, after) => after.inserted rest := by
  rw [inserted, List.map_cons, grown, List.foldlM_cons, grow]
  cases start.insert document <;> rfl

theorem keepsAll_nil (start : Collection) : start.KeepsAll [] where
  fresh := by
    intro earlier document later split
    simp at split
  kept := by
    intro earlier later split
    obtain ⟨rfl, rfl⟩ := List.append_eq_nil_iff.mp split.symm
    exact ⟨start, start, rfl, rfl, fun _ _ => id⟩

theorem KeepsAll.exists_inserted {start : Collection} {documents : List Json}
    (keeps : start.KeepsAll documents) : ∃ after, start.inserted documents = .ok after := by
  obtain ⟨before, after, -, done, -⟩ := keeps.kept [] documents rfl
  exact ⟨after, done⟩

/-- A fresh insert before inserts that lose nothing. -/
theorem KeepsAll.cons {start after : Collection} {document : Json} {id : DocumentId}
    {rest : List Json} (returned : start.insert document = .ok (id, after))
    (first : start.Fresh document id after) (others : after.KeepsAll rest) :
    start.KeepsAll (document :: rest) := by
  have moved : ∀ documents, start.inserted (document :: documents) = after.inserted documents := by
    intro documents
    rw [inserted_cons, returned]
    rfl
  constructor
  case fresh =>
    intro earlier other later split
    cases earlier with
    | nil =>
        cases split
        exact ⟨start, id, after, rfl, returned, first⟩
    | cons head earlier =>
        obtain ⟨rfl, same⟩ := List.cons_eq_cons.mp split
        rw [moved]
        exact others.fresh earlier other later same
  case kept =>
    intro earlier later split
    rw [moved]
    cases earlier with
    | nil =>
        obtain ⟨before, last, started, done, kept⟩ := others.kept [] rest rfl
        cases started
        exact ⟨start, last, rfl, done, fun other held found =>
          kept other held (first.kept other held found)⟩
    | cons head earlier =>
        obtain ⟨rfl, same⟩ := List.cons_eq_cons.mp split
        rw [moved]
        exact others.kept earlier later same

/-- Inserts that return lose nothing. -/
theorem Sound.keepsAll {start after : Collection} (sound : start.Sound) {documents : List Json}
    (done : start.inserted documents = .ok after) : start.KeepsAll documents := by
  induction documents generalizing start with
  | nil => exact keepsAll_nil start
  | cons document rest ih =>
      rw [inserted_cons, insert_eq] at done
      split at done
      case isTrue room =>
        have returned : start.insert document = .ok (start.nextId, start.added document) := by
          rw [insert_eq, if_pos room]
        exact .cons returned (sound.fresh document) (ih (sound.added document) done)
      case isFalse => cases done

theorem extended_insert_nextId (start : Collection) (documents : List Json) :
    (start.extended (documents.map .insert)).nextId = start.nextId + documents.length := by
  induction documents generalizing start with
  | nil => rfl
  | cons document rest ih =>
      refine (ih (start.added document)).trans ?_
      rw [added_nextId, List.length_cons, Nat.add_right_comm, Nat.add_assoc]

/-- Whatever file a collection is loaded from, inserts one by one lose nothing if a number is left
to come next. If none is left, the program has broken off. -/
theorem keepsAll_iff_of_load {files : Files} {root name : String} {start : Collection}
    (loaded : load files root name = .ok start) (documents : List Json) :
    (start.KeepsAll documents ↔ start.highest + documents.length + 1 < Decimal.words64) ∧
      (start.inserted documents = .error .overflow ↔
        Decimal.words64 ≤ start.highest + documents.length + 1) := by
  obtain ⟨text, read, word⟩ := ofText_of_load loaded
  have sound : start.Sound := (Origin.ofText read).sound
  have count : start.nextId + documents.length = start.highest + documents.length + 1 := by
    rw [sound.nextId_eq, Nat.add_right_comm]
  have ended : start.inserted documents =
      if start.highest + documents.length + 1 < Decimal.words64 then
        .ok (start.extended (documents.map .insert))
      else .error .overflow := by
    rw [inserted, grown, counting_grow.foldlM_eq]
    refine if_congr ?_ rfl rfl
    change Reaches start.nextId (start.extended (documents.map .insert)).nextId ↔ _
    rw [extended_insert_nextId, count, Reaches]
    exact or_iff_right_of_imp fun same => same ▸ word
  by_cases room : start.highest + documents.length + 1 < Decimal.words64
  · rw [if_pos room] at ended
    refine ⟨iff_of_true (sound.keepsAll ended) room, iff_of_false ?_ (Nat.not_le.mpr room)⟩
    rw [ended]
    exact fun same => by cases same
  · rw [if_neg room] at ended
    refine ⟨iff_of_false (fun keeps => ?_) room, iff_of_true ended (Nat.not_lt.mp room)⟩
    obtain ⟨after, done⟩ := keeps.exists_inserted
    rw [ended] at done
    cases done

theorem keepsAll_sample :
    let files : Files := ⟨[(["db"], .directory), (["db", "net.json"], .text
      "\x7b\"indexes\":[\"k\"],\"documents\":\x7b\"9\":\x7b\"k\":1\x7d,\"7\":[]\x7d\x7d")]⟩
    let start := ofParts ["k"] [(7, .array []), (9, .object [("k", .number (.integer 1))])]
    let documents : List Json := [.string "a", .object [("k", .number (.integer 1))], .null]
    load files "db" "net" = .ok start ∧ start.KeepsAll documents := by
  intro files start documents
  have loaded : load files "db" "net" = .ok start := by decide +kernel
  exact ⟨loaded, (keepsAll_iff_of_load loaded documents).1.mpr (by decide +kernel)⟩

/-- The last word is free, but the insert that would give it away breaks off. -/
theorem insert_at_last_word :
    let files : Files := ⟨[(["db"], .directory), (["db", "net.json"], .text
      "\x7b\"documents\":\x7b\"18446744073709551614\":\"a\"\x7d\x7d")]⟩
    let start := ofParts [] [(18446744073709551614, .string "a")]
    load files "db" "net" = .ok start ∧ start.get? 18446744073709551615 = none ∧
      start.insert (.string "c") = .error .overflow ∧ ¬ start.KeepsAll [.string "c"] := by
  intro files start
  have broken : start.insert (.string "c") = .error .overflow := by decide +kernel
  refine ⟨by decide +kernel, by decide +kernel, broken, fun keeps => ?_⟩
  obtain ⟨before, id, after, started, returned, -⟩ := keeps.fresh [] (.string "c") [] rfl
  cases started
  rw [broken] at returned
  cases returned

end NetConsole.Store.Collection
