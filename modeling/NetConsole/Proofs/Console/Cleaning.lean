import NetConsole.Proofs.Console.Commit

/-!
# Cleaning a store

Cleaning drops some collections and then writes all that are left. Their files may get other texts
by that, but what is opened again is the same: the dropped collections are gone with their files,
and nobody can tell the others from what they were.
-/

set_option autoImplicit false

namespace NetConsole.Store

/-! ## Stores without some collections -/

theorem without_of_missing {store : Store} {name : String} (missing : store.contains name = false) :
    store.without name = store := by
  have kept : store.collections.filter (·.1 != name) = store.collections := by
    refine List.filter_eq_self.mpr fun entry member => bne_iff_ne.mpr fun same => ?_
    have found : store.contains name = true :=
      Option.isSome_map.trans (List.find?_isSome.mpr ⟨entry, member, beq_iff_eq.mpr same⟩)
    rw [missing] at found
    cases found
  rw [without, kept]

theorem contains_without_of_missing {store : Store} (name : String) {other : String}
    (missing : store.contains other = false) : (store.without name).contains other = false := by
  rw [contains, without_collection?]
  split
  · rfl
  · exact missing

theorem withoutAll_of_missing {store : Store} {names : List String}
    (missing : ∀ name ∈ names, store.contains name = false) : store.withoutAll names = store := by
  induction names with
  | nil => rfl
  | cons name rest ih =>
      obtain ⟨first, others⟩ := List.forall_mem_cons.mp missing
      rw [withoutAll, List.foldl_cons, without_of_missing first]
      exact ih others

/-- Names of collections that are not there may be left out. -/
theorem withoutAll_filter {store : Store} {names : List String} {wanted : String → Bool}
    (missing : ∀ name, wanted name = false → store.contains name = false) :
    store.withoutAll (names.filter wanted) = store.withoutAll names := by
  induction names generalizing store with
  | nil => rfl
  | cons name rest ih =>
      cases keep : wanted name with
      | false =>
          rw [List.filter_cons_of_neg (by simp [keep]), ih missing, withoutAll, withoutAll,
            List.foldl_cons, without_of_missing (missing name keep)]
      | true =>
          rw [List.filter_cons_of_pos keep, withoutAll, withoutAll, List.foldl_cons, List.foldl_cons]
          exact ih fun other unwanted => contains_without_of_missing name (missing other unwanted)

theorem mem_withoutAll {store : Store} {names : List String} {entry : String × Collection} :
    entry ∈ (store.withoutAll names).collections ↔
      entry ∈ store.collections ∧ entry.1 ∉ names := by
  induction names generalizing store with
  | nil => simp [withoutAll]
  | cons name rest ih =>
      have later : entry ∈ ((store.without name).withoutAll rest).collections ↔
          entry ∈ (store.without name).collections ∧ entry.1 ∉ rest := ih
      rw [withoutAll, List.foldl_cons, ← withoutAll, later, mem_without, List.mem_cons, not_or,
        and_assoc]

theorem names_withoutAll {store : Store} {names : List String} {name : String}
    (member : name ∈ (store.withoutAll names).names) : name ∈ store.names ∧ name ∉ names := by
  obtain ⟨collection, there⟩ := mem_names.mp member
  obtain ⟨before, kept⟩ := mem_withoutAll.mp there
  exact ⟨mem_names.mpr ⟨collection, before⟩, kept⟩

/-! ## Directories of which collections were dropped -/

/-- What is so of files once some collections of the store in a directory were dropped: the files of
those that were there are gone, all others remain, what is opened is like the store without the
dropped ones, and files that are not those of collections are as they were. -/
structure Cleaned (root : String) (store : Store) (names : List String) (before after : Files) :
    Prop where
  gone : ∀ name ∈ names, store.contains name = true →
    (∃ content, before.at? (place (Path.ofText root) name) = some (.text content)) ∧
      after.at? (place (Path.ofText root) name) = none
  remaining : ∀ name ∉ names, store.contains name = true →
    ∃ content, after.at? (place (Path.ofText root) name) = some (.text content)
  reopens : Reopens after root (store.withoutAll names)
  elsewhere : ∀ path, (∀ name ∈ store.names, path ≠ place (Path.ofText root) name) →
    ∀ content, after.at? path = some (.text content) ↔ before.at? path = some (.text content)

variable {root : String} {files opened : Files} {store : Store}

theorem exists_text_of_open? (found : open? files root = (opened, .ok store)) {name : String}
    (present : store.contains name = true) :
    ∃ content, files.at? (place (Path.ofText root) name) = some (.text content) := by
  obtain ⟨rooted, -, loads, -⟩ := rooted_of_open? found
  obtain ⟨collection, held⟩ := Option.isSome_iff_exists.mp present
  have member := mem_of_collection? held
  obtain ⟨content, there, -⟩ := (load_eq_ok (rooted.valid _ member)).mp (loads _ member)
  exact ⟨content, (text_of_open? found).mp there⟩

/-- The collections of a store that is opened again have their files. -/
theorem Reopens.exists_text {left : Store} (reopens : Reopens files root left) {name : String}
    (present : left.contains name = true) :
    ∃ content, files.at? (place (Path.ofText root) name) = some (.text content) := by
  obtain ⟨after, found, alike⟩ := reopens
  obtain ⟨collection, held⟩ := Option.isSome_iff_exists.mp present
  refine exists_text_of_open? found ?_
  have documents : after.documents name = .ok collection.documents := by
    rw [alike.documents, Store.documents, Store.collection, held]
    rfl
  obtain ⟨again, same, -⟩ := Stepwise.bind_eq_ok.mp documents
  rw [contains, collection_eq_ok same]
  rfl

theorem contains_withoutAll {names : List String} {name : String} (other : name ∉ names) :
    (store.withoutAll names).contains name = store.contains name := by
  rw [contains, withoutAll_collection?, if_neg other]
  rfl

/-- If none of the collections is there, nothing is done. -/
theorem cleaned_of_missing (found : open? files root = (opened, .ok store)) {names : List String}
    (missing : ∀ name ∈ names, store.contains name = false) :
    Cleaned root store names files opened := by
  obtain ⟨rooted, -, loads, -⟩ := rooted_of_open? found
  have again : open? opened root = (opened, .ok store) :=
    rooted.open?_eq rooted.standing.makeDirectory loads
  constructor
  case gone =>
    intro name member present
    rw [missing name member] at present
    cases present
  case remaining => exact fun name _ present => exists_text_of_open? again present
  case reopens =>
    rw [withoutAll_of_missing missing]
    exact ⟨store, again, rfl, fun _ => rfl, fun _ _ => rfl, fun _ _ _ => rfl, fun _ _ => rfl⟩
  case elsewhere => exact fun path _ content => text_of_open? found

end NetConsole.Store

namespace NetConsole.Console

open Json Store

/-- Dropping collections cleans a store of them. -/
theorem exists_cleaned {root : String} {files opened : Files} {store : Store} {names : List String}
    (found : open? files root = (opened, .ok store)) (wide : store.Wide 0)
    (wellNamed : files.WellNamed) (distinct : names.Nodup) :
    ∃ after, dropCollections store opened (names.filter store.contains) = (after, .ok ()) ∧
      Cleaned root store names files after := by
  have keeps : Change.Keeps root 0 (store, opened) := wide.keeps found
  obtain ⟨dropped, ran, gone, others⟩ := keeps.rooted.exists_dropAll
    (distinct.filter store.contains) fun name member => (List.mem_filter.mp member).2
  have left := Change.keeps_dropAll keeps (names.filter store.contains)
  rw [ran, withoutAll_filter fun name missing => missing] at left
  have short : ∀ name ∈ (store.withoutAll names).names, name.toList.length ≤ maxNameLength :=
    fun name member => short_of_open? found wellNamed name (names_withoutAll member).1
  obtain ⟨after, flushed, -, -, kept⟩ :=
    left.rooted.flush (fun entry member => (left.spacious entry member).lasting) short
  have reopens : Reopens after root (store.withoutAll names) := left.reopens short flushed
  refine ⟨after, ?_, ?gone, ?remaining, reopens, ?elsewhere⟩
  · rw [dropCollections, ran, withoutAll_filter fun name missing => missing]
    exact flushed
  case gone =>
    intro name member present
    refine ⟨exists_text_of_open? found present, ?_⟩
    rw [kept _ fun other there same => ?_, gone name (List.mem_filter.mpr ⟨member, present⟩)]
    rw [place_injective same] at member
    exact (names_withoutAll there).2 member
  case remaining =>
    intro name other present
    rw [← contains_withoutAll other] at present
    exact reopens.exists_text present
  case elsewhere =>
    intro path apart content
    rw [kept path fun name member => apart name (names_withoutAll member).1, others path ?_]
    · exact text_of_open? found
    · intro name member
      obtain ⟨collection, held⟩ := Option.isSome_iff_exists.mp (List.mem_filter.mp member).2
      exact apart name (mem_names.mpr ⟨collection, mem_of_collection? held⟩)

/-- A confirmed cleaning succeeds, and touches nothing but the collections that it is for. -/
theorem Invocation.clean_keeps_others {options : Options} (target : Option Resource) {scene : Scene}
    {config : Config} (loaded : Config.load scene.files scene.environment scene.home = .ok config)
    (confirmed : options.yes = true) (wellNamed : scene.files.WellNamed) {opened : Files}
    {store : Store}
    (found : open? scene.files (storeDirectory options config scene.home) = (opened, .ok store))
    (wide : store.Wide 0) :
    (Invocation.run ⟨options, .store (.clean target)⟩ scene).result = .ok () ∧
      Cleaned (storeDirectory options config scene.home) store (targets target) scene.files
        (Invocation.run ⟨options, .store (.clean target)⟩ scene).files ∧
      ∀ name, (store.withoutAll (targets target)).collection? name =
        if name ∈ targets target then none else store.collection? name := by
  have ran : Invocation.run ⟨options, .store (.clean target)⟩ scene =
      (StoreCommand.clean target).run (presentation options config) options.yes store
        { scene with files := opened } := by
    simp only [Invocation.run, configured, loaded, found]
  obtain ⟨after, dropped, cleaned⟩ := exists_cleaned found wide wellNamed (targets_nodup target)
  have outcome : (Invocation.run ⟨options, .store (.clean target)⟩ scene).result = .ok () ∧
      Cleaned (storeDirectory options config scene.home) store (targets target) scene.files
        (Invocation.run ⟨options, .store (.clean target)⟩ scene).files := by
    rw [ran, StoreCommand.run, confirmed]
    dsimp only
    split
    case isTrue nothing =>
      refine ⟨rfl, cleaned_of_missing found fun name member => ?_⟩
      have absent := List.filter_eq_nil_iff.mp (List.isEmpty_iff.mp nothing) name member
      exact Bool.eq_false_iff.mpr absent
    case isFalse =>
      rw [if_neg (by decide), dropped]
      exact ⟨rfl, cleaned⟩
  exact ⟨outcome.1, outcome.2, store.withoutAll_collection? (targets target)⟩

/-- A scene in which the directory of the store has alarms, a site with a number, and a file that
is not that of a collection. -/
def tidyScene (number : String) : Scene where
  home := "/home"
  environment := []
  files := ⟨[(["db"], .directory), (["db", "notes"], .text "n"),
    (["db", "Alarms.json"], .text "\x7b\"documents\":\x7b\"1\":\x7b\"_id\":\"a\"\x7d\x7d\x7d"),
    (["db", "Sites.json"], .text ("\x7b\"documents\":\x7b\"4\":[" ++ number ++ "]\x7d\x7d"))]⟩
  wire := { reaches := fun _ => true, replies := [], sent := [] }

/-- The invocation that cleans the alarms. -/
def alarmCleaning : Invocation where
  options := { storePath := some "/db", yes := true }
  command := .store (.clean (some .alarms))

theorem clean_keeps_others_sample :
    let scene := tidyScene "7"
    let store : Store :=
      ⟨some "/db", [("Alarms", ⟨[(1, .object [("_id", .string "a")])], [], 2⟩),
        ("Sites", ⟨[(4, .array [.number (.integer 7)])], [], 5⟩)]⟩
    scene.files.WellNamed ∧ open? scene.files "/db" = (scene.files, .ok store) ∧ store.Wide 0 ∧
      (alarmCleaning.run scene).result = .ok () ∧
      Cleaned "/db" store ["Alarms"] scene.files (alarmCleaning.run scene).files ∧
      ∀ name, (store.withoutAll ["Alarms"]).collection? name =
        if name ∈ ["Alarms"] then none else store.collection? name := by
  intro scene store
  have wellNamed : scene.files.WellNamed := Files.wellNamed_of_entries (by decide +kernel)
  have found : open? scene.files "/db" = (scene.files, .ok store) := by decide +kernel
  have wide : store.Wide 0 := by
    refine ⟨?_, by decide, by decide⟩
    simp [store, Json.IsIntegral, Every, EveryItem, EveryMember, Whole, IsWord, Decimal.half64,
      Decimal.words64]
  have readable : (Config.load scene.files scene.environment scene.home).toOption.isSome = true := by
    decide +kernel
  cases loaded : Config.load scene.files scene.environment scene.home with
  | error cause =>
      rw [loaded] at readable
      cases readable
  | ok config =>
      exact ⟨wellNamed, found, wide,
        Invocation.clean_keeps_others (some .alarms) loaded rfl wellNamed found wide⟩

/-- An integer that no word holds is kept as a fraction, and the text of a fraction need not be read
as the same one: a site that is not cleaned is another when the directory is opened again. -/
theorem clean_changes_large :
    let scene := tidyScene "90476744073709544413"
    ∃ store reopened, open? scene.files "/db" = (scene.files, .ok store) ∧
      (alarmCleaning.run scene).result = .ok () ∧
      open? (alarmCleaning.run scene).files "/db" = ((alarmCleaning.run scene).files, .ok reopened) ∧
      reopened.documents "Sites" ≠ store.documents "Sites" := by
  intro scene
  have apart : (open? scene.files "/db").2.toOption.bind (fun store =>
      (open? (alarmCleaning.run scene).files "/db").2.toOption.map fun reopened =>
        decide (reopened.documents "Sites" ≠ store.documents "Sites")) = some true := by
    decide +kernel
  have stays : (open? scene.files "/db").1 = scene.files := by decide +kernel
  have still : (open? (alarmCleaning.run scene).files "/db").1 = (alarmCleaning.run scene).files := by
    decide +kernel
  rcases found : open? scene.files "/db" with ⟨opened, cause | store⟩
  · rw [found] at apart
    cases apart
  rcases again : open? (alarmCleaning.run scene).files "/db" with ⟨after, cause | reopened⟩
  · rw [found, again] at apart
    cases apart
  · rw [found, again] at apart
    rw [found] at stays
    rw [again] at still
    cases stays
    cases still
    exact ⟨store, reopened, rfl, by decide +kernel, rfl,
      of_decide_eq_true (Option.some.inj apart)⟩

end NetConsole.Console
