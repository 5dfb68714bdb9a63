import NetConsole.Proofs.Store.Mirror

/-!
# Directories that mirror what was fetched

The store of a directory holds, in every collection, the first of the records that were fetched for
it under each id. That stays so when more records are added, when collections are dropped, and when
the store is written and opened again.
-/

set_option autoImplicit false

namespace NetConsole.Store

open Json

/-! ## Collections by name -/

theorem put_collection? {store : Store} (ascending : Ascending store.collections) (name : String)
    (collection : Collection) (other : String) : (store.put name collection).collection? other =
      if other = name then some collection else store.collection? other := by
  rw [collection?, put_collections, Ascending.find?_put ascending]
  split <;> rfl

theorem without_collection? (store : Store) (name other : String) :
    (store.without name).collection? other =
      if other = name then none else store.collection? other := by
  simp only [collection?, without, List.find?_filter]
  by_cases same : other = name
  · subst same
    rw [if_pos rfl, Option.map_eq_none_iff]
    refine List.find?_eq_none.mpr fun entry _ => ?_
    simp
  · rw [if_neg same]
    congr 2
    funext entry
    by_cases here : entry.1 = other
    · subst here
      simp [same]
    · simp [here]

/-- The documents in the collection with a name; none if there is no such collection. -/
def held (store : Store) (name : String) : List Json :=
  ((store.collection? name).map fun collection => collection.documents.map Prod.snd).getD []

theorem held_put {store : Store} (ascending : Ascending store.collections) (name : String)
    (collection : Collection) (other : String) : (store.put name collection).held other =
      if other = name then collection.documents.map Prod.snd else store.held other := by
  rw [held, put_collection? ascending]
  split <;> rfl

theorem held_reloaded (store : Store) (name : String) : store.reloaded.held name = store.held name := by
  rw [held, held, reloaded_collection?]
  cases store.collection? name with
  | none => rfl
  | some collection => exact congrArg (List.map Prod.snd) collection.reloaded_documents

theorem upsertTarget_documents (store : Store) (name field : String) :
    (store.upsertTarget name field).documents.map Prod.snd = store.held name := by
  rw [upsertTarget, held, Collection.addIndex_documents]
  cases store.collection? name <;> rfl

/-! ## Dropping collections -/

/-- The store without some collections. -/
def withoutAll (store : Store) (names : List String) : Store := names.foldl without store

theorem withoutAll_collection? (store : Store) (names : List String) (other : String) :
    (store.withoutAll names).collection? other =
      if other ∈ names then none else store.collection? other := by
  induction names generalizing store with
  | nil => rfl
  | cons name rest ih =>
      rw [withoutAll, List.foldl_cons]
      refine (ih (store.without name)).trans ?_
      rw [without_collection?]
      by_cases later : other ∈ rest
      · rw [if_pos later, if_pos (List.mem_cons_of_mem _ later)]
      · rw [if_neg later]
        by_cases here : other = name
        · rw [if_pos here, if_pos (List.mem_cons.mpr (.inl here))]
        · rw [if_neg here, if_neg (List.not_mem_cons_of_ne_of_not_mem here later)]

/-- Collections that are there can be dropped, and nothing is lost but their files. -/
theorem Rooted.exists_dropAll {root : String} {names : List String} {store : Store} {files : Files}
    (rooted : Rooted root store files) (distinct : names.Nodup)
    (present : ∀ name ∈ names, store.contains name = true) :
    ∃ after, store.dropAll files names = (store.withoutAll names, after, .ok ()) ∧
      (∀ name ∈ names, after.at? (place (Path.ofText root) name) = none) ∧
      ∀ path, (∀ name ∈ names, path ≠ place (Path.ofText root) name) →
        after.at? path = files.at? path := by
  induction names generalizing store files with
  | nil => exact ⟨files, rfl, fun _ member => absurd member List.not_mem_nil, fun _ _ => rfl⟩
  | cons name rest ih =>
      obtain ⟨fresh, distinct⟩ := List.nodup_cons.mp distinct
      obtain ⟨here, present⟩ := List.forall_mem_cons.mp present
      have still : ∀ other ∈ rest, (store.without name).contains other = true := by
        intro other member
        have apart : other ≠ name := by
          intro same
          subst same
          exact fresh member
        rw [contains, without_collection?, if_neg apart]
        exact present other member
      obtain ⟨after, dropped, gone, others⟩ := ih (rooted.without name) distinct still
      have below := place_ne_nil (Path.ofText root) name
      rw [dropAll, rooted.drop_eq here]
      refine ⟨after, dropped, List.forall_mem_cons.mpr ⟨?_, gone⟩, fun path elsewhere => ?_⟩
      · have apart : ∀ other ∈ rest, place (Path.ofText root) name ≠ place (Path.ofText root) other := by
          intro other member same
          rw [place_injective same] at fresh
          exact fresh member
        rw [others _ apart, Files.at?_erase files below, if_pos rfl]
      · obtain ⟨first, elsewhere⟩ := List.forall_mem_cons.mp elsewhere
        rw [others path elsewhere, Files.at?_erase files below, if_neg first]

/-! ## Stores that mirror -/

/-- The records that were fetched for each collection, in the order in which they came. -/
abbrev History := String → List (String × Json)

/-- A store in its directory holds the first records of a history, and has numbers for some more. -/
structure Mirroring (root : String) (room : Nat) (history : History) (store : Store)
    (files : Files) : Prop where
  keeps : Change.Keeps root room (store, files)
  short : ∀ name ∈ store.names, name.toList.length ≤ maxNameLength
  keepable : ∀ name, ∀ record ∈ history name, Keepable record.1 record.2
  held : ∀ name, store.held name = (firsts (history name)).map Prod.snd

theorem Mirroring.mono {root : String} {less more : Nat} {history : History} {store : Store}
    {files : Files} (fewer : less ≤ more) (mirroring : Mirroring root more history store files) :
    Mirroring root less history store files where
  keeps := mirroring.keeps.mono fewer
  short := mirroring.short
  keepable := mirroring.keepable
  held := mirroring.held

/-- The history once more records were fetched for a collection. -/
def History.fetched (history : History) (name : String) (records : List (String × Json)) :
    History :=
  fun other => if other = name then history other ++ records else history other

/-- The history once collections were cleaned. -/
def History.cleaned (history : History) (names : List String) : History :=
  fun other => if other ∈ names then [] else history other

theorem mem_names_put {store : Store} (ascending : Ascending store.collections) {name other : String}
    {collection : Collection} (member : other ∈ (store.put name collection).names) :
    other = name ∨ other ∈ store.names := by
  obtain ⟨held, there⟩ := mem_names.mp member
  rw [put_collections, Ascending.mem_put ascending] at there
  rcases there with same | ⟨before, -⟩
  · exact .inl (congrArg Prod.fst same)
  · exact .inr (mem_names.mpr ⟨held, before⟩)

/-- Records that are fetched take numbers, and are added to what their collection mirrors. -/
theorem Mirroring.withRecords {root : String} {room : Nat} {history : History} {store : Store}
    {files : Files} {name : String} {records : List (String × Json)}
    (mirroring : Mirroring root (room + records.length) history store files)
    (valid : isValidName name = true) (short : name.toList.length ≤ maxNameLength)
    (keepable : ∀ record ∈ records, Keepable record.1 record.2) :
    Mirroring root room (history.fetched name records) (store.withRecords name records) files := by
  have keeps := mirroring.keeps
  have ascending : Ascending store.collections := keeps.rooted.ascending
  have target := keeps.upsertTarget name "_id"
  have spacious : ((store.upsertTarget name "_id").upserted "_id" records).2.Spacious room :=
    target.upsert (fun record member => (keepable record member).storable) _
  have holds : (store.upsertTarget name "_id").Holds (firsts (history name)) :=
    (store.upsertTarget_documents name "_id").trans (mirroring.held name)
  constructor
  case keeps => exact keeps.put (Nat.le_add_right _ _) valid spacious
  case short =>
    intro other member
    rcases mem_names_put ascending member with rfl | before
    · exact short
    · exact mirroring.short other before
  case keepable =>
    intro other record member
    unfold History.fetched at member
    split at member
    · rcases List.mem_append.mp member with before | later
      · exact mirroring.keepable other record before
      · exact keepable record later
    · exact mirroring.keepable other record member
  case held =>
    intro other
    rw [Store.withRecords, held_put ascending, History.fetched]
    by_cases same : other = name
    · subst same
      rw [if_pos rfl, if_pos rfl, firsts_append]
      exact Collection.holds_upsert target holds
        (fun record member => mirroring.keepable other record (mem_of_mem_firsts member)) keepable _
    · rw [if_neg same, if_neg same]
      exact mirroring.held other

/-- Collections mirror nothing any more once those of them that are there were dropped. -/
theorem Mirroring.exists_dropAll {root : String} {room : Nat} {history : History} {store : Store}
    {files : Files} (mirroring : Mirroring root room history store files) {names : List String}
    (distinct : names.Nodup) :
    ∃ changed after, store.dropAll files (names.filter store.contains) = (changed, after, .ok ()) ∧
      Mirroring root room (history.cleaned names) changed after := by
  obtain ⟨after, dropped, -⟩ := mirroring.keeps.rooted.exists_dropAll
    (distinct.filter store.contains) fun name member => (List.mem_filter.mp member).2
  have keeps := Change.keeps_dropAll mirroring.keeps (names.filter store.contains)
  rw [dropped] at keeps
  refine ⟨_, after, dropped, keeps, fun name member => ?_, fun name record member => ?_,
    fun name => ?_⟩
  · obtain ⟨collection, there⟩ := mem_names.mp member
    have found : (store.withoutAll (names.filter store.contains)).collection? name =
        some collection := by
      rw [collection?, (Ascending.find?_eq_some keeps.rooted.ascending).mpr there]
      rfl
    rw [withoutAll_collection?] at found
    split at found
    · cases found
    · exact mirroring.short name (mem_names.mpr ⟨collection, mem_of_collection? found⟩)
  · unfold History.cleaned at member
    split at member
    · cases member
    · exact mirroring.keepable name record member
  · rw [Store.held, withoutAll_collection?, History.cleaned]
    by_cases cleaned : name ∈ names
    · rw [if_pos cleaned]
      cases found : store.collection? name with
      | none =>
          rw [ite_self]
          rfl
      | some collection =>
          have there : store.contains name = true := by rw [contains, found]; rfl
          rw [if_pos (List.mem_filter.mpr ⟨cleaned, there⟩)]
          rfl
    · rw [if_neg cleaned, if_neg fun both => cleaned (List.mem_filter.mp both).1]
      exact mirroring.held name

/-! ## Directories that mirror -/

/-- The store that is opened in a directory mirrors a history. -/
def Mirrored (root : String) (room : Nat) (history : History) (files : Files) : Prop :=
  ∃ opened store, open? files root = (opened, .ok store) ∧
    Mirroring root room history store opened

theorem Mirroring.mirrored {root : String} {room : Nat} {history : History} {store : Store}
    {files opened : Files} (mirroring : Mirroring root room history store opened)
    (found : open? files root = (opened, .ok store)) : Mirrored root room history opened := by
  obtain ⟨rooted, -, loads, -⟩ := rooted_of_open? found
  exact ⟨opened, store, rooted.open?_eq rooted.standing.makeDirectory loads, mirroring⟩

/-- It does not matter with which text the path of a directory is given. -/
theorem Mirrored.relocate {root other : String} {room : Nat} {history : History} {files : Files}
    (mirrored : Mirrored root room history files) (named : other ≠ "")
    (same : Path.ofText other = Path.ofText root) : Mirrored other room history files := by
  obtain ⟨opened, store, found, mirroring⟩ := mirrored
  obtain ⟨rooted, made, loads, -⟩ := rooted_of_open? found
  have moved := rooted.relocate named same
  refine ⟨opened, { store with root := some other }, moved.open?_eq ?_ fun entry member => ?_,
    ⟨moved, mirroring.keeps.spacious, mirroring.keeps.fresh⟩, mirroring.short, mirroring.keepable,
    mirroring.held⟩
  · rw [same]
    exact made
  · exact load_eq_ok_of_path (rooted.valid entry member) same (loads entry member)

theorem Mirrored.named {root : String} {room : Nat} {history : History} {files : Files}
    (mirrored : Mirrored root room history files) : root ≠ "" := by
  obtain ⟨_, _, _, mirroring⟩ := mirrored
  exact mirroring.keeps.rooted.named

theorem Mirrored.agree {root : String} {room : Nat} {history : History} {files other : Files}
    (mirrored : Mirrored root room history files)
    (agree : Files.Agree (Path.ofText root) files other) : Mirrored root room history other := by
  obtain ⟨opened, store, found, mirroring⟩ := mirrored
  obtain ⟨rooted, made, loads, -⟩ := rooted_of_open? found
  obtain ⟨after, alsoMade, agree⟩ := agree.makeDirectory made
  have still := rooted.agree agree
  refine ⟨after, store, still.open?_eq alsoMade fun entry member => ?_,
    ⟨still, mirroring.keeps.spacious, mirroring.keeps.fresh⟩, mirroring.short, mirroring.keepable,
    mirroring.held⟩
  exact load_eq_ok_of_agree (rooted.valid entry member) agree (loads entry member)

/-- A mirroring store can be written, and what is opened afterwards mirrors the same. -/
theorem Mirroring.exists_flush {root : String} {room : Nat} {history : History} {store : Store}
    {files : Files} (mirroring : Mirroring root room history store files) :
    ∃ after, store.flush files = (after, .ok ()) ∧ Mirrored root room history after := by
  obtain ⟨rooted, spacious, fresh⟩ := mirroring.keeps
  obtain ⟨after, written, stillRooted, found, -⟩ := rooted.flush
    (fun entry member => (spacious entry member).lasting) mirroring.short
  refine ⟨after, written, after, store.reloaded, found, ⟨stillRooted.reloaded, ?_, fresh⟩, ?_,
    mirroring.keepable, fun name => (store.held_reloaded name).trans (mirroring.held name)⟩
  · intro entry member
    obtain ⟨before, there, rfl⟩ := mem_reloaded.mp member
    exact (spacious before there).reloaded
  · rw [reloaded_names]
    exact mirroring.short

/-- In a directory that mirrors a history, every collection mirrors what was fetched for it. -/
theorem Mirrored.mirrors {root : String} {room : Nat} {history : History} {files : Files}
    (mirrored : Mirrored root room history files) :
    ∃ opened store, open? files root = (opened, .ok store) ∧
      ∀ name, Mirrors (history name) (store.held name) := by
  obtain ⟨opened, store, found, mirroring⟩ := mirrored
  refine ⟨opened, store, found, fun name => ?_⟩
  rw [mirroring.held]
  exact mirrors_firsts (mirroring.keepable name)

end NetConsole.Store
