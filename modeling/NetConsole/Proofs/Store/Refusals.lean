import NetConsole.Proofs.Store.Operations

/-!
# Operations that are refused

The checks of names and numbers come before anything is changed, so that an operation that one of
them refuses leaves everything as it was. The names of the collections of a store are valid
whatever was done to it, and so the files of a store are directly in its directory.
-/

set_option autoImplicit false

namespace NetConsole.Store

open Stepwise

/-- Whether a cause is that an operation was refused, and not that files could not be read or
written or that the program broke off. -/
def Error.isRefusal : Error → Bool
  | .noSuchCollection _ | .collectionExists _ | .invalidName _ | .noSuchDocument _ _ => true
  | .files _ | .corrupt _ _ | .overflow => false

theorem collection_of_missing {store : Store} {name : String} (missing : store.contains name = false) :
    store.collection name = .error (.noSuchCollection name) := by
  have none : store.collection? name = none :=
    Option.isNone_iff_eq_none.mp (Option.isSome_eq_false_iff.mp missing)
  rw [Store.collection, none]

theorem exists_collection {store : Store} {name : String} (present : store.contains name = true) :
    ∃ collection, store.collection? name = some collection ∧
      store.collection name = .ok collection := by
  obtain ⟨collection, found⟩ := Option.isSome_iff_exists.mp present
  exact ⟨collection, found, by rw [Store.collection, found]⟩

theorem checkName_of_valid {name : String} (valid : isValidName name = true) :
    checkName name = .ok () := if_pos valid

theorem checkName_of_invalid {name : String} (invalid : isValidName name = false) :
    checkName name = .error (.invalidName name) :=
  if_neg (by rw [invalid]; exact Bool.false_ne_true)

namespace Operation

/-- What has to be so for an operation to be accepted. -/
def Allowed (name : String) (store : Store) : Operation → Prop
  | create => isValidName name = true ∧ store.contains name = false
  | upsert _ _ => isValidName name = true
  | read id => ∃ collection document, store.collection? name = some collection ∧
      collection.get? id = some document
  | _ => store.contains name = true

/-- Whether an operation adds documents, for which it needs numbers. -/
def adds : Operation → Bool
  | insert _ | upsert _ _ => true
  | _ => false

/-- How an operation on a store and its files can end: with a refusal that leaves both as they
were, or else with what it answers, unless the file of a dropped collection stays or there are no
numbers left for documents. -/
inductive Ends (name : String) (store : Store) (files : Files) :
    Operation → Except Error Reply × Store × Files → Prop where
  | invalid {operation : Operation} : operation.makes = true → isValidName name = false →
      Ends name store files operation (.error (.invalidName name), store, files)
  | taken : isValidName name = true → store.contains name = true →
      Ends name store files .create (.error (.collectionExists name), store, files)
  | missing {operation : Operation} : operation.makes = false → store.contains name = false →
      Ends name store files operation (.error (.noSuchCollection name), store, files)
  | unnumbered {id : DocumentId} {collection : Collection} :
      store.collection? name = some collection → collection.get? id = none →
      Ends name store files (.read id) (.error (.noSuchDocument name id), store, files)
  | stuck {path : String} : store.contains name = true →
      Ends name store files .drop (.error (.files path), store.without name, files)
  | broken {operation : Operation} : operation.adds = true → operation.Allowed name store →
      Ends name store files operation (.error .overflow, store, files)
  | done {operation : Operation} {reply : Reply} {changed : Store} {after : Files} :
      operation.Allowed name store →
      Ends name store files operation (.ok reply, changed, after)

variable {name : String} {store : Store} {files : Files}

theorem ends_of_missing {operation : Operation} (needs : operation.makes = false)
    (missing : store.contains name = false) :
    operation.Ends name store files (operation.perform name (store, files)) := by
  have none := collection_of_missing missing
  cases operation with
  | create | upsert => cases needs
  | drop =>
      rw [perform, drop_eq_error files missing]
      exact .missing rfl missing
  | index =>
      rw [perform, Store.index, none]
      exact .missing rfl missing
  | insert =>
      rw [perform, Store.insert, none]
      exact .missing rfl missing
  | read =>
      rw [perform, Store.read, none]
      exact .missing rfl missing
  | documents =>
      rw [perform, Store.documents, none]
      exact .missing rfl missing
  | size =>
      rw [perform, Store.size, none]
      exact .missing rfl missing
  | query =>
      rw [perform, Store.query, none]
      exact .missing rfl missing

theorem ends_of_present {operation : Operation} (needs : operation.makes = false)
    (present : store.contains name = true) :
    operation.Ends name store files (operation.perform name (store, files)) := by
  obtain ⟨collection, found, held⟩ := exists_collection present
  cases operation with
  | create | upsert => cases needs
  | drop =>
      rw [perform, Store.drop, present]
      dsimp only
      have kept : (store.without name).root = store.root := rfl
      rw [kept]
      cases store.root with
      | none => exact .done present
      | some root =>
          dsimp only
          cases files.remove (Path.ofText (filePath root name)) with
          | none => exact .stuck present
          | some after => exact .done present
  | read id =>
      rw [perform, Store.read, held]
      dsimp only [bind, Except.bind]
      cases there : collection.get? id with
      | none => exact .unnumbered found there
      | some document => exact .done ⟨collection, document, found, there⟩
  | index =>
      rw [perform, Store.index, held]
      exact .done present
  | insert =>
      rw [perform, Store.insert, held]
      dsimp only [bind, Except.bind]
      rw [Collection.insert_eq]
      by_cases room : collection.nextId + 1 < Decimal.words64
      · rw [if_pos room]
        exact .done present
      · rw [if_neg room]
        exact .broken rfl present
  | documents =>
      rw [perform, Store.documents, held]
      exact .done present
  | size =>
      rw [perform, Store.size, held]
      exact .done present
  | query =>
      rw [perform, Store.query, held]
      exact .done present

theorem ends (name : String) (operation : Operation) (store : Store) (files : Files) :
    operation.Ends name store files (operation.perform name (store, files)) := by
  cases making : operation.makes with
  | false =>
      cases present : store.contains name with
      | false => exact ends_of_missing making present
      | true => exact ends_of_present making present
  | true =>
      cases valid : isValidName name with
      | false =>
          have refused := checkName_of_invalid valid
          cases operation with
          | create =>
              rw [perform, Store.create, refused]
              exact .invalid making valid
          | upsert field records =>
              rw [perform, Store.upsert, refused]
              exact .invalid making valid
          | _ => cases making
      | true =>
          have checked := checkName_of_valid valid
          cases operation with
          | create =>
              rw [perform, Store.create, checked]
              dsimp only [bind, Except.bind]
              cases present : store.contains name with
              | true => exact .taken valid present
              | false => exact .done ⟨valid, present⟩
          | upsert field records =>
              rw [perform, upsert_eq valid]
              dsimp only
              split
              case isTrue => exact .done valid
              case isFalse => exact .broken rfl valid
          | _ => cases making

/-- What is said of the refusals of an operation: which it answers when, and that the store and its
files are then as they were. Whatever else fails is a file that stays, or breaks the program off. -/
structure Obeys (name : String) (state : Store × Files) (operation : Operation)
    (result : Except Error Reply × Store × Files) : Prop where
  atomic : ∀ cause, result.1 = .error cause → cause.isRefusal = true → result.2 = state
  invalid : ∀ other, result.1 = .error (.invalidName other) ↔
    other = name ∧ operation.makes = true ∧ isValidName name = false
  taken : ∀ other, result.1 = .error (.collectionExists other) ↔
    other = name ∧ operation = .create ∧ isValidName name = true ∧ state.1.contains name = true
  missing : ∀ other, result.1 = .error (.noSuchCollection other) ↔
    other = name ∧ operation.makes = false ∧ state.1.contains name = false
  unnumbered : ∀ other id, result.1 = .error (.noSuchDocument other id) ↔
    other = name ∧ operation = .read id ∧
      ∃ collection, state.1.collection? name = some collection ∧ collection.get? id = none
  remaining : ∀ cause, result.1 = .error cause → cause.isRefusal = false →
    (operation = .drop ∧ ∃ path, cause = .files path) ∨
      (operation.adds = true ∧ cause = .overflow)

theorem contains_of_some {collection : Collection} (found : store.collection? name = some collection) :
    store.contains name = true := by
  rw [contains, found]
  rfl

variable {operation : Operation} {result : Except Error Reply × Store × Files}

theorem Allowed.valid (allowed : operation.Allowed name store)
    (making : operation.makes = true) : isValidName name = true := by
  cases operation with
  | create => exact allowed.1
  | upsert => exact allowed
  | _ => cases making

theorem Allowed.present (allowed : operation.Allowed name store)
    (needs : operation.makes = false) : store.contains name = true := by
  cases operation with
  | create | upsert => cases needs
  | read id =>
      obtain ⟨collection, -, found, -⟩ := allowed
      exact contains_of_some found
  | _ => exact allowed

theorem Ends.invalid_iff (ended : operation.Ends name store files result) (other : String) :
    result.1 = .error (.invalidName other) ↔
      other = name ∧ operation.makes = true ∧ isValidName name = false := by
  constructor
  · intro same
    cases ended with
    | invalid making unfit =>
        cases same
        exact ⟨rfl, making, unfit⟩
    | _ => cases same
  · rintro ⟨rfl, making, unfit⟩
    cases ended with
    | invalid => rfl
    | taken valid => simp [unfit] at valid
    | missing needs => simp [making] at needs
    | unnumbered | stuck => cases making
    | done allowed | broken _ allowed =>
        have valid := allowed.valid making
        simp [unfit] at valid

theorem Ends.taken_iff (ended : operation.Ends name store files result) (other : String) :
    result.1 = .error (.collectionExists other) ↔ other = name ∧ operation = .create ∧
      isValidName name = true ∧ store.contains name = true := by
  constructor
  · intro same
    cases ended with
    | taken valid present =>
        cases same
        exact ⟨rfl, rfl, valid, present⟩
    | _ => cases same
  · rintro ⟨rfl, rfl, valid, present⟩
    cases ended with
    | invalid _ unfit => simp [valid] at unfit
    | taken => rfl
    | missing needs => cases needs
    | broken adds => cases adds
    | done allowed =>
        have absent := allowed.2
        simp [present] at absent

theorem Ends.missing_iff (ended : operation.Ends name store files result) (other : String) :
    result.1 = .error (.noSuchCollection other) ↔
      other = name ∧ operation.makes = false ∧ store.contains name = false := by
  constructor
  · intro same
    cases ended with
    | missing needs absent =>
        cases same
        exact ⟨rfl, needs, absent⟩
    | _ => cases same
  · rintro ⟨rfl, needs, absent⟩
    cases ended with
    | invalid making => simp [needs] at making
    | taken => cases needs
    | missing => rfl
    | unnumbered found => simp [contains_of_some found] at absent
    | stuck present => simp [absent] at present
    | done allowed | broken _ allowed =>
        have present := allowed.present needs
        simp [absent] at present

theorem Ends.unnumbered_iff (ended : operation.Ends name store files result) (other : String)
    (id : DocumentId) : result.1 = .error (.noSuchDocument other id) ↔
      other = name ∧ operation = .read id ∧
        ∃ collection, store.collection? name = some collection ∧ collection.get? id = none := by
  constructor
  · intro same
    cases ended with
    | unnumbered found none =>
        cases same
        exact ⟨rfl, rfl, _, found, none⟩
    | _ => cases same
  · rintro ⟨rfl, rfl, collection, found, none⟩
    cases ended with
    | invalid making => cases making
    | missing _ absent => simp [contains_of_some found] at absent
    | unnumbered => rfl
    | broken adds => cases adds
    | done allowed =>
        obtain ⟨held, document, there, inside⟩ := allowed
        cases found.symm.trans there
        simp [none] at inside

theorem Ends.obeys (ended : operation.Ends name store files result) :
    operation.Obeys name (store, files) result where
  atomic cause same refusal := by
    cases ended with
    | stuck | broken =>
        cases same
        cases refusal
    | done => cases same
    | _ => rfl
  invalid := ended.invalid_iff
  taken := ended.taken_iff
  missing := ended.missing_iff
  unnumbered := ended.unnumbered_iff
  remaining cause same other := by
    cases ended with
    | @stuck path =>
        cases same
        exact .inl ⟨rfl, path, rfl⟩
    | broken adds =>
        cases same
        exact .inr ⟨adds, rfl⟩
    | _ => cases same <;> cases other

end Operation

/-! ## Names that stay valid -/

/-- The stores that there are: empty ones in memory, those that were opened from any directory, and
what becomes of them, whatever the files are by then. -/
inductive Reached : Store → Prop where
  | inMemory : Reached .inMemory
  | opened {files after : Files} {root : String} {store : Store} :
      open? files root = (after, .ok store) → Reached store
  | performed {store : Store} (name : String) (operation : Operation) (files : Files) :
      Reached store → Reached (operation.perform name (store, files)).2.1
  | cleared {store : Store} (files : Files) : Reached store → Reached (store.clear files).1

/-- The name of every collection is valid. -/
def Named (store : Store) : Prop := ∀ name ∈ store.names, isValidName name = true

theorem Named.put {store : Store} (named : store.Named) {name : String}
    (valid : isValidName name = true) (collection : Collection) :
    (store.put name collection).Named := by
  have kept : ∀ other ∈ (store.put name collection).names, other = name ∨ other ∈ store.names := by
    unfold Store.names Store.put
    induction store.collections with
    | nil => simp [putCollection]
    | cons entry rest ih =>
        obtain ⟨first, held⟩ := entry
        rw [putCollection]
        grind
  intro other member
  rcases kept other member with rfl | before
  · exact valid
  · exact named other before

theorem Named.without {store : Store} (named : store.Named) (name : String) :
    (store.without name).Named := by
  intro other member
  obtain ⟨collection, there⟩ := mem_names.mp member
  exact named other (mem_names.mpr ⟨collection, (mem_without.mp there).1⟩)

theorem Named.of_collection? {store : Store} (named : store.Named) {name : String}
    {collection : Collection} (found : store.collection? name = some collection) :
    isValidName name = true :=
  named name (mem_names.mpr ⟨collection, mem_of_collection? found⟩)

theorem drop_fst (store : Store) (files : Files) (name : String) :
    (store.drop files name).1 = store ∨ (store.drop files name).1 = store.without name := by
  unfold drop
  dsimp only
  split
  · exact .inl rfl
  · right
    split
    · rfl
    · split <;> rfl

theorem Named.drop {store : Store} (named : store.Named) (files : Files) (name : String) :
    (store.drop files name).1.Named := by
  rcases drop_fst store files name with same | gone
  · rw [same]
    exact named
  · rw [gone]
    exact named.without name

theorem Named.dropAll {store : Store} (named : store.Named) (files : Files) (names : List String) :
    (store.dropAll files names).1.Named := by
  induction names generalizing store files with
  | nil => exact named
  | cons name rest ih =>
      have kept := named.drop files name
      rw [Store.dropAll]
      split
      case h_1 changed after dropped =>
        rw [dropped] at kept
        exact ih kept after
      case h_2 => exact kept

theorem Named.settled {store : Store} (named : store.Named) (files : Files)
    {result : Except Error (Reply × Store)}
    (changes : ∀ reply changed, result = .ok (reply, changed) → changed.Named) :
    (Operation.settled (store, files) result).2.1.Named := by
  cases ended : result with
  | error cause => exact named
  | ok answer => exact changes answer.1 answer.2 ended

/-- What an operation leaves has valid names if what it found had. -/
theorem Named.perform {store : Store} (named : store.Named) (name : String) (operation : Operation)
    (files : Files) : (operation.perform name (store, files)).2.1.Named := by
  cases operation with
  | create =>
      refine named.settled files fun reply changed made => ?_
      obtain ⟨after, created, same⟩ := map_eq_ok made
      cases same
      obtain ⟨valid, rfl⟩ := create_eq_ok created
      exact named.put valid .empty
  | drop => exact named.drop files name
  | index fields =>
      refine named.settled files fun reply changed made => ?_
      obtain ⟨after, indexed, same⟩ := map_eq_ok made
      cases same
      obtain ⟨collection, found, rfl⟩ := index_eq_ok indexed
      exact named.put (named.of_collection? found) _
  | insert document =>
      refine named.settled files fun reply changed made => ?_
      obtain ⟨⟨id, after⟩, added, same⟩ := map_eq_ok made
      cases same
      obtain ⟨collection, found, -, rfl⟩ := insert_eq_ok added
      exact named.put (named.of_collection? found) _
  | upsert field records =>
      refine named.settled files fun reply changed made => ?_
      obtain ⟨⟨report, after⟩, added, same⟩ := map_eq_ok made
      cases same
      obtain ⟨valid, rfl⟩ := upsert_eq_ok added
      exact named.put valid _
  | read | documents | size | query =>
      refine named.settled files fun reply changed made => ?_
      obtain ⟨answer, -, same⟩ := map_eq_ok made
      cases same
      exact named

/-- Every store that there is has valid names, those from a listing included. -/
theorem Reached.named {store : Store} (reached : Reached store) : store.Named := by
  induction reached with
  | inMemory => exact fun _ member => absurd member List.not_mem_nil
  | opened found =>
      intro name member
      obtain ⟨collection, there⟩ := mem_names.mp member
      exact (rooted_of_open? found).1.valid _ there
  | performed name operation files _ ih => exact ih.perform name operation files
  | cleared files _ ih => exact ih.dropAll files _

/-! ## Files elsewhere -/

/-- Whether a path is that of the file of a collection of a store, directly in its directory. -/
def Owns (store : Store) (path : Path) : Prop :=
  ∃ root, store.root = some root ∧ ∃ name ∈ store.names, path = place (Path.ofText root) name

theorem Owns.of_drop {store : Store} {files : Files} {name : String} {path : Path}
    (owns : (store.drop files name).1.Owns path) : store.Owns path := by
  rcases drop_fst store files name with same | gone
  · rw [same] at owns
    exact owns
  · rw [gone] at owns
    obtain ⟨root, located, other, member, rfl⟩ := owns
    obtain ⟨collection, there⟩ := mem_names.mp member
    exact ⟨root, located, other, mem_names.mpr ⟨collection, (mem_without.mp there).1⟩, rfl⟩

theorem at?_of_writeAll {root : String} {entries : List (String × Collection)} {path : Path}
    (valid : ∀ entry ∈ entries, isValidName entry.1 = true)
    (elsewhere : ∀ entry ∈ entries, path ≠ place (Path.ofText root) entry.1) (files : Files) :
    (writeAll root files entries).1.at? path = files.at? path := by
  induction entries generalizing files with
  | nil => rfl
  | cons entry rest ih =>
      obtain ⟨firstValid, valid⟩ := List.forall_mem_cons.mp valid
      obtain ⟨first, elsewhere⟩ := List.forall_mem_cons.mp elsewhere
      rw [writeAll, ofText_filePath root firstValid]
      cases written : files.write (place (Path.ofText root) entry.1) entry.2.toText with
      | none => rfl
      | some after => rw [ih valid elsewhere after, Files.at?_of_write written first]

/-- Writing a store changes no file but those of its collections, even if it fails midway. -/
theorem Named.at?_flush {store : Store} (named : store.Named) {path : Path}
    (elsewhere : ¬ store.Owns path) (files : Files) :
    (store.flush files).1.at? path = files.at? path := by
  have nameOf : ∀ entry ∈ store.collections, entry.1 ∈ store.names := fun entry member =>
    List.mem_map_of_mem member
  rw [flush]
  cases located : store.root with
  | none => rfl
  | some root =>
      refine at?_of_writeAll (fun entry member => named _ (nameOf entry member)) ?_ files
      exact fun entry member same => elsewhere ⟨root, located, entry.1, nameOf entry member, same⟩

theorem Named.at?_drop {store : Store} (named : store.Named) {path : Path}
    (elsewhere : ¬ store.Owns path) (files : Files) (name : String) :
    (store.drop files name).2.1.at? path = files.at? path := by
  cases present : store.contains name with
  | false => rw [drop_eq_error files present]
  | true =>
      obtain ⟨collection, found, -⟩ := exists_collection present
      have kept : (store.without name).root = store.root := rfl
      rw [Store.drop, present]
      dsimp only
      rw [kept]
      cases located : store.root with
      | none => rfl
      | some root =>
          have apart : path ≠ place (Path.ofText root) name := fun same => elsewhere
            ⟨root, located, name, mem_names.mpr ⟨collection, mem_of_collection? found⟩, same⟩
          dsimp only
          rw [ofText_filePath root (named.of_collection? found)]
          cases removed : files.remove (place (Path.ofText root) name) with
          | none => rfl
          | some after => exact Files.at?_of_remove removed (place_ne_nil _ _) apart

theorem Named.at?_dropAll {store : Store} (named : store.Named) {path : Path}
    (elsewhere : ¬ store.Owns path) (files : Files) (names : List String) :
    (store.dropAll files names).2.1.at? path = files.at? path := by
  induction names generalizing store files with
  | nil => rfl
  | cons name rest ih =>
      have kept := named.drop files name
      have still : ¬ (store.drop files name).1.Owns path := fun owns => elsewhere owns.of_drop
      have same := named.at?_drop elsewhere files name
      rw [Store.dropAll]
      split
      case h_1 changed after dropped =>
        rw [dropped] at kept still same
        rw [ih kept still after, same]
      case h_2 => exact same

/-- The refusals of a store that there is leave everything as it was, the names of its collections
are valid, and whatever is written or dropped, only its own files are concerned. -/
theorem Reached.atomic_and_confined {store : Store} (reached : Reached store) :
    (∀ name operation files,
      Agrees ((operation.steps name).run (store, files)) (operation.perform name (store, files)) ∧
      Operation.Obeys name (store, files) operation (operation.perform name (store, files))) ∧
    (∀ name ∈ store.names, name ≠ "" ∧
      ∀ c ∈ name.toList, c.isAlphanum = true ∨ c = '-' ∨ c = '_') ∧
    (∀ root, store.root = some root → ∀ name ∈ store.names,
      Path.ofText (filePath root name) = Path.ofText root ++ [name ++ ".json"]) ∧
    ∀ files path, ¬ store.Owns path →
      (store.flush files).1.at? path = files.at? path ∧
      (∀ name, (store.drop files name).2.1.at? path = files.at? path) ∧
      (store.clear files).2.1.at? path = files.at? path := by
  have named := reached.named
  refine ⟨fun name operation files => ?obeys, fun name member => ?valid,
    fun root _ name member => ofText_filePath root (named name member),
    fun files path elsewhere => ?confined⟩
  case obeys =>
    exact ⟨operation.run_steps name (store, files), (Operation.ends name operation store files).obeys⟩
  case valid =>
    have valid := named name member
    simp only [isValidName, isNameChar, Bool.and_eq_true, bne_iff_ne, List.all_eq_true,
      Bool.or_eq_true, beq_iff_eq, or_assoc] at valid
    exact valid
  case confined =>
    exact ⟨named.at?_flush elsewhere files, named.at?_drop elsewhere files,
      named.at?_dropAll elsewhere files store.names⟩

theorem atomic_and_confined_sample :
    let before : Files := ⟨[(["db"], .directory), (["db", "not a name.json"], .text ""),
      (["db", "a.json"], .text "\x7b\"documents\":\x7b\"7\":[1]\x7d\x7d")]⟩
    let opened : Store := ⟨some "db", [("a", ⟨[(7, .array [.number (.integer 1)])], [], 8⟩)]⟩
    let store := (Operation.create.perform "b" (opened, before)).2.1
    open? before "db" = (before, .ok opened) ∧ store.names = ["a", "b"] ∧
    (∀ name operation files,
      Agrees ((operation.steps name).run (store, files)) (operation.perform name (store, files)) ∧
      Operation.Obeys name (store, files) operation (operation.perform name (store, files))) ∧
    (∀ name ∈ store.names, name ≠ "" ∧
      ∀ c ∈ name.toList, c.isAlphanum = true ∨ c = '-' ∨ c = '_') ∧
    (∀ root, store.root = some root → ∀ name ∈ store.names,
      Path.ofText (filePath root name) = Path.ofText root ++ [name ++ ".json"]) ∧
    ∀ files path, ¬ store.Owns path →
      (store.flush files).1.at? path = files.at? path ∧
      (∀ name, (store.drop files name).2.1.at? path = files.at? path) ∧
      (store.clear files).2.1.at? path = files.at? path := by
  intro before opened store
  have found : open? before "db" = (before, .ok opened) := by decide +kernel
  exact ⟨found, by decide +kernel,
    Reached.atomic_and_confined (.performed "b" .create before (.opened found))⟩

end NetConsole.Store
