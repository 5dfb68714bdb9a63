import NetConsole.Proofs.Store.CollectionFile
import NetConsole.Proofs.Store.FileNames

/-!
# Stores and their directories

A store that was opened has its directory standing, and whatever is there under the name of a
collection file belongs to a collection of the store. As long as that is so, the store can be
written, and what is opened afterwards is the store that was written.
-/

set_option autoImplicit false

namespace NetConsole.Store

open Stepwise

/-! ## Loading -/

theorem counted_eq_ok {collection after : Collection} :
    collection.counted = .ok after ↔ collection = after ∧ collection.nextId < Decimal.words64 := by
  unfold Collection.counted
  split
  case isTrue word => simp [word]
  case isFalse beyond => simp [beyond]

theorem load_eq_ok {files : Files} {root name : String} (valid : isValidName name = true)
    {collection : Collection} : load files root name = .ok collection ↔
      ∃ text, files.at? (place (Path.ofText root) name) = some (.text text) ∧
        Collection.ofText text = .ok collection ∧ collection.nextId < Decimal.words64 := by
  unfold load Files.read?
  dsimp only
  rw [ofText_filePath root valid]
  cases there : files.at? (place (Path.ofText root) name) with
  | none => simp
  | some entry =>
      cases entry with
      | directory => simp
      | text content =>
          simp only [Option.some.injEq, Entry.text.injEq, exists_eq_left']
          cases Collection.ofText content with
          | error reason => simp
          | ok loaded =>
              simp only [counted_eq_ok, Except.ok.injEq]
              refine and_congr_right fun same => ?_
              rw [same]

theorem ofText_of_load {files : Files} {root name : String} {collection : Collection}
    (loaded : load files root name = .ok collection) : ∃ text,
      Collection.ofText text = .ok collection ∧ collection.nextId < Decimal.words64 := by
  unfold load at loaded
  dsimp only at loaded
  split at loaded
  case h_1 => cases loaded
  case h_2 text _ =>
    split at loaded
    case h_1 held read =>
      obtain ⟨rfl, word⟩ := counted_eq_ok.mp loaded
      exact ⟨text, read, word⟩
    case h_2 => cases loaded

theorem exists_loadAll {files : Files} {root : String} {names : List String}
    (each : ∀ name ∈ names, ∃ collection, load files root name = .ok collection) (store : Store) :
    ∃ after, loadAll files root store names = .ok after := by
  induction names generalizing store with
  | nil => exact ⟨store, rfl⟩
  | cons name rest ih =>
      obtain ⟨⟨collection, first⟩, others⟩ := List.forall_mem_cons.mp each
      rw [loadAll, first]
      exact ih others (store.put name collection)

theorem exists_load_of_loadAll {files : Files} {root : String} {names : List String}
    {store after : Store} (loaded : loadAll files root store names = .ok after) :
    ∀ name ∈ names, ∃ collection, load files root name = .ok collection := by
  induction names generalizing store with
  | nil => exact fun _ member => absurd member List.not_mem_nil
  | cons name rest ih =>
      rw [loadAll] at loaded
      obtain ⟨collection, first, loaded⟩ := bind_eq_ok.mp loaded
      exact List.forall_mem_cons.mpr ⟨⟨collection, first⟩, ih loaded⟩

theorem put_collections (store : Store) (name : String) (collection : Collection) :
    (store.put name collection).collections =
      Ascending.put name collection store.collections :=
  putCollection_eq_put name collection store.collections

theorem putCollection_putCollection (name : String) (one two : Collection)
    (entries : List (String × Collection)) :
    putCollection name two (putCollection name one entries) = putCollection name two entries := by
  induction entries with
  | nil => simp [putCollection]
  | cons entry rest ih =>
      obtain ⟨other, held⟩ := entry
      simp only [putCollection]
      split
      case isTrue => simp [putCollection]
      case isFalse notBefore =>
        split
        case isTrue after => rw [putCollection, if_neg notBefore, if_pos after, ih]
        case isFalse => simp [putCollection]

theorem put_put (store : Store) (name : String) (one two : Collection) :
    (store.put name one).put name two = store.put name two := by
  simp only [put, putCollection_putCollection]

theorem mem_loadAll {files : Files} {root : String} {names : List String} {store after : Store}
    (ascending : Ascending store.collections) (loaded : loadAll files root store names = .ok after) :
    after.root = store.root ∧ Ascending after.collections ∧
      ∀ entry, entry ∈ after.collections ↔ (entry ∈ store.collections ∧ entry.1 ∉ names) ∨
        (entry.1 ∈ names ∧ load files root entry.1 = .ok entry.2) := by
  induction names generalizing store with
  | nil =>
      cases loaded
      refine ⟨rfl, ascending, fun entry => ?_⟩
      simp
  | cons name rest ih =>
      rw [loadAll] at loaded
      obtain ⟨collection, first, loaded⟩ := bind_eq_ok.mp loaded
      have put : Ascending (store.put name collection).collections := by
        rw [put_collections]
        exact ascending.put_ascending name collection
      obtain ⟨root, ordered, members⟩ := ih put loaded
      refine ⟨root, ordered, fun entry => ?_⟩
      rw [members, put_collections, Ascending.mem_put ascending]
      constructor
      · intro given
        rcases given with ⟨rfl | ⟨before, other⟩, later⟩ | ⟨later, read⟩
        · exact .inr ⟨List.mem_cons_self, first⟩
        · exact .inl ⟨before, List.not_mem_cons_of_ne_of_not_mem other later⟩
        · exact .inr ⟨List.mem_cons_of_mem _ later, read⟩
      · intro given
        rcases given with ⟨before, missing⟩ | ⟨named, read⟩
        · obtain ⟨other, later⟩ := List.ne_and_not_mem_of_not_mem_cons missing
          exact .inl ⟨.inr ⟨before, other⟩, later⟩
        · by_cases later : entry.1 ∈ rest
          · exact .inr ⟨later, read⟩
          · obtain same : entry.1 = name := (List.mem_cons.mp named).resolve_right later
            obtain ⟨own, held⟩ := entry
            cases same
            rw [first] at read
            cases read
            exact .inl ⟨.inl rfl, later⟩

/-! ## The directory of a store -/

/-- A store with its directory: the directory stands, and what is there under the name of a
collection file is the file of a collection that the store has. -/
structure Rooted (root : String) (store : Store) (files : Files) : Prop where
  named : root ≠ ""
  located : store.root = some root
  ascending : Ascending store.collections
  valid : ∀ entry ∈ store.collections, isValidName entry.1 = true
  standing : files.Standing (Path.ofText root)
  listed : ∀ name, isValidName name = true → ∀ found,
    files.at? (place (Path.ofText root) name) = some found →
      name ∈ store.names ∧ found ≠ .directory

theorem mem_names {store : Store} {name : String} :
    name ∈ store.names ↔ ∃ collection, (name, collection) ∈ store.collections := by
  simp [Store.names]

theorem Rooted.free {root : String} {store : Store} {files : Files}
    (rooted : Rooted root store files) {name : String} (valid : isValidName name = true) :
    files.at? (place (Path.ofText root) name) ≠ some .directory :=
  fun found => (rooted.listed name valid .directory found).2 rfl

/-- A store that is opened has its directory, and each of its collections is loaded from there.
Nothing that was there before is changed. -/
theorem rooted_of_open? {files after : Files} {root : String} {store : Store}
    (opened : open? files root = (after, .ok store)) :
    Rooted root store after ∧ files.makeDirectory (Path.ofText root) = some after ∧
      (∀ entry ∈ store.collections, load after root entry.1 = .ok entry.2) ∧
      ∀ path entry, files.at? path = some entry → after.at? path = some entry := by
  unfold open? at opened
  split at opened
  case isTrue => cases opened
  case isFalse named =>
    cases made : files.makeDirectory (Path.ofText root) with
    | none =>
        simp only [made] at opened
        cases opened
    | some standing =>
        simp only [made, Prod.mk.injEq] at opened
        obtain ⟨rfl, loaded⟩ := opened
        obtain ⟨stands, kept⟩ := Files.standing_of_makeDirectory made
        have empty : Ascending (⟨some root, []⟩ : Store).collections := List.Pairwise.nil
        obtain ⟨located, ascending, members⟩ := mem_loadAll empty loaded
        have origin : ∀ entry, entry ∈ store.collections ↔
            entry.1 ∈ namesIn standing root ∧ load standing root entry.1 = .ok entry.2 := by
          intro entry
          rw [members entry]
          exact or_iff_right fun nothing => List.not_mem_nil nothing.1
        refine ⟨⟨named, located, ascending, ?_, stands, ?_⟩, rfl, ?_, kept⟩
        · intro entry member
          exact (mem_namesIn.mp ((origin entry).mp member).1).1
        · intro name valid found there
          have listed : name ∈ namesIn standing root :=
            mem_namesIn.mpr ⟨valid, Option.isSome_iff_exists.mpr ⟨found, there⟩⟩
          obtain ⟨collection, read⟩ := exists_load_of_loadAll loaded name listed
          obtain ⟨text, same, -⟩ := (load_eq_ok valid).mp read
          rw [there] at same
          cases same
          exact ⟨mem_names.mpr ⟨collection, (origin (name, collection)).mpr ⟨listed, read⟩⟩,
            fun same => by cases same⟩
        · intro entry member
          exact ((origin entry).mp member).2

/-- The store of a directory is opened there if that is what its files hold. -/
theorem Rooted.open?_eq {root : String} {store : Store} {before files : Files}
    (rooted : Rooted root store files) (made : before.makeDirectory (Path.ofText root) = some files)
    (loads : ∀ entry ∈ store.collections, load files root entry.1 = .ok entry.2) :
    open? before root = (files, .ok store) := by
  have inListing : ∀ name, name ∈ namesIn files root ↔ name ∈ store.names := by
    intro name
    rw [mem_namesIn]
    constructor
    · intro given
      obtain ⟨valid, there⟩ := given
      obtain ⟨found, there⟩ := Option.isSome_iff_exists.mp there
      exact (rooted.listed name valid found there).1
    · intro present
      obtain ⟨collection, member⟩ := mem_names.mp present
      have valid : isValidName name = true := rooted.valid (name, collection) member
      have read : load files root name = .ok collection := loads (name, collection) member
      obtain ⟨text, there, -⟩ := (load_eq_ok valid).mp read
      exact ⟨valid, Option.isSome_iff_exists.mpr ⟨.text text, there⟩⟩
  have each : ∀ name ∈ namesIn files root, ∃ collection, load files root name = .ok collection := by
    intro name listed
    obtain ⟨collection, member⟩ := mem_names.mp ((inListing name).mp listed)
    exact ⟨collection, loads (name, collection) member⟩
  obtain ⟨opened, loaded⟩ := exists_loadAll each ⟨some root, []⟩
  have empty : Ascending (⟨some root, []⟩ : Store).collections := List.Pairwise.nil
  obtain ⟨located, ascending, members⟩ := mem_loadAll empty loaded
  have collections : opened.collections = store.collections := by
    refine ascending.ext rooted.ascending fun entry => ?_
    rw [members]
    constructor
    · intro given
      rcases given with ⟨nothing, -⟩ | ⟨named, read⟩
      · exact absurd nothing List.not_mem_nil
      · obtain ⟨collection, member⟩ := mem_names.mp ((inListing entry.1).mp named)
        have same : collection = entry.2 :=
          Except.ok.inj ((loads (entry.1, collection) member).symm.trans read)
        rw [same] at member
        exact member
    · intro member
      exact .inr ⟨(inListing _).mpr (mem_names.mpr ⟨entry.2, member⟩), loads entry member⟩
  have same : opened = store := by
    obtain ⟨openedRoot, held⟩ := opened
    obtain ⟨storeRoot, others⟩ := store
    cases collections
    cases located
    cases rooted.located
    rfl
  rw [open?, if_neg rooted.named, made, ← same, ← loaded]

theorem Rooted.relocate {root other : String} {store : Store} {files : Files}
    (rooted : Rooted root store files) (named : other ≠ "")
    (same : Path.ofText other = Path.ofText root) :
    Rooted other { store with root := some other } files where
  named := named
  located := rfl
  ascending := rooted.ascending
  valid := rooted.valid
  standing := by
    rw [same]
    exact rooted.standing
  listed name valid found there := by
    rw [same] at there
    exact rooted.listed name valid found there

theorem load_eq_ok_of_path {root other name : String} {files : Files} {collection : Collection}
    (valid : isValidName name = true) (same : Path.ofText other = Path.ofText root)
    (read : load files root name = .ok collection) : load files other name = .ok collection := by
  rw [load_eq_ok valid] at read ⊢
  rw [same]
  exact read

theorem Rooted.agree {root : String} {store : Store} {files other : Files}
    (rooted : Rooted root store files) (agree : Files.Agree (Path.ofText root) files other) :
    Rooted root store other where
  named := rooted.named
  located := rooted.located
  ascending := rooted.ascending
  valid := rooted.valid
  standing place above := (agree place (.inl above)).symm.trans (rooted.standing place above)
  listed name valid found there := rooted.listed name valid found
    ((agree _ (.inr (List.prefix_append _ _))).trans there)

theorem load_eq_ok_of_agree {root name : String} {files other : Files} {collection : Collection}
    (valid : isValidName name = true) (agree : Files.Agree (Path.ofText root) files other)
    (read : load files root name = .ok collection) : load other root name = .ok collection := by
  rw [load_eq_ok valid] at read ⊢
  have same : files.at? (place (Path.ofText root) name) = other.at? (place (Path.ofText root) name) :=
    agree _ (.inr (List.prefix_append _ _))
  rw [← same]
  exact read

/-! ## Writing -/

/-- What is at each place after collections were written: their texts in their files, and all else
as it was. -/
theorem exists_writeAll {root : String} {files : Files} {entries : List (String × Collection)}
    (standing : files.Standing (Path.ofText root)) (ascending : Ascending entries)
    (valid : ∀ entry ∈ entries, isValidName entry.1 = true)
    (free : ∀ entry ∈ entries,
      files.at? (place (Path.ofText root) entry.1) ≠ some .directory)
    (short : ∀ entry ∈ entries, entry.1.toList.length ≤ maxNameLength) :
    ∃ after, writeAll root files entries = (after, .ok ()) ∧
      after.Standing (Path.ofText root) ∧
      (∀ entry ∈ entries, after.at? (place (Path.ofText root) entry.1) =
        some (.text entry.2.toText)) ∧
      ∀ path, (∀ entry ∈ entries, path ≠ place (Path.ofText root) entry.1) →
        after.at? path = files.at? path := by
  induction entries generalizing files with
  | nil => exact ⟨files, rfl, standing, fun _ member => absurd member List.not_mem_nil, fun _ _ => rfl⟩
  | cons entry rest ih =>
      obtain ⟨name, collection⟩ := entry
      obtain ⟨above, ascending⟩ := List.pairwise_cons.mp ascending
      obtain ⟨firstValid, valid⟩ := List.forall_mem_cons.mp valid
      obtain ⟨firstFree, free⟩ := List.forall_mem_cons.mp free
      obtain ⟨firstShort, short⟩ := List.forall_mem_cons.mp short
      have allowed : Path.isName (fileName name) = true :=
        (isName_fileName firstValid).trans (decide_eq_true firstShort)
      have written := Files.write_eq collection.toText standing.here firstFree allowed
      have below := place_ne_nil (Path.ofText root) name
      have apart : ∀ other ∈ rest, place (Path.ofText root) other.1 ≠
          place (Path.ofText root) name := fun other member same =>
        (above other member).ne' (place_injective same)
      have stillStanding : (files.put (place (Path.ofText root) name)
          (.text collection.toText)).Standing (Path.ofText root) := standing.put _ _
      have stillFree : ∀ other ∈ rest, (files.put (place (Path.ofText root) name)
          (.text collection.toText)).at? (place (Path.ofText root) other.1) ≠ some .directory := by
        intro other member
        rw [Files.at?_put files below, if_neg (apart other member)]
        exact free other member
      obtain ⟨after, ran, stands, texts, others⟩ :=
        ih stillStanding ascending valid stillFree short
      refine ⟨after, ?_, stands, List.forall_mem_cons.mpr ⟨?_, texts⟩, fun path elsewhere => ?_⟩
      · rw [writeAll, ofText_filePath root firstValid]
        dsimp only
        rw [place, written]
        exact ran
      · rw [others _ fun other member => (apart other member).symm, Files.at?_put files below,
          if_pos rfl]
      · obtain ⟨first, elsewhere⟩ := List.forall_mem_cons.mp elsewhere
        rw [others path elsewhere, Files.at?_put files below, if_neg first]

theorem short_of_writeAll {root : String} {files after : Files}
    {entries : List (String × Collection)}
    (valid : ∀ entry ∈ entries, isValidName entry.1 = true)
    (written : writeAll root files entries = (after, .ok ())) :
    ∀ entry ∈ entries, entry.1.toList.length ≤ maxNameLength := by
  induction entries generalizing files with
  | nil => exact fun _ member => absurd member List.not_mem_nil
  | cons entry rest ih =>
      obtain ⟨name, collection⟩ := entry
      obtain ⟨firstValid, valid⟩ := List.forall_mem_cons.mp valid
      rw [writeAll, ofText_filePath root firstValid, place] at written
      dsimp only at written
      cases allowed : Path.isName (fileName name) with
      | false =>
          rw [Files.write_eq_none collection.toText allowed] at written
          cases written
      | true =>
          have short : name.toList.length ≤ maxNameLength :=
            of_decide_eq_true ((isName_fileName firstValid).symm.trans allowed)
          split at written
          · cases written
          · exact List.forall_mem_cons.mpr ⟨short, ih valid written⟩

/-- The store that is opened where a store was written. -/
def reloaded (store : Store) : Store :=
  { store with collections := store.collections.map fun entry => (entry.1, entry.2.reloaded) }

theorem reloaded_names (store : Store) : store.reloaded.names = store.names := by
  rw [names, reloaded, List.map_map]
  rfl

theorem mem_reloaded {store : Store} {entry : String × Collection} :
    entry ∈ store.reloaded.collections ↔
      ∃ before ∈ store.collections, (before.1, before.2.reloaded) = entry := List.mem_map

theorem Rooted.reloaded {root : String} {store : Store} {files : Files}
    (rooted : Rooted root store files) : Rooted root store.reloaded files where
  named := rooted.named
  located := rooted.located
  ascending := List.pairwise_map.mpr rooted.ascending
  valid entry member := by
    obtain ⟨before, there, rfl⟩ := mem_reloaded.mp member
    exact rooted.valid before there
  standing := rooted.standing
  listed name valid found there := by
    rw [reloaded_names]
    exact rooted.listed name valid found there

/-- Every collection of a store lasts. -/
def Lasting (store : Store) : Prop := ∀ entry ∈ store.collections, entry.2.Lasting

theorem Rooted.exists_flush {root : String} {store : Store} {files : Files}
    (rooted : Rooted root store files)
    (short : ∀ name ∈ store.names, name.toList.length ≤ maxNameLength) :
    ∃ after, store.flush files = (after, .ok ()) ∧
      after.Standing (Path.ofText root) ∧
      (∀ entry ∈ store.collections, after.at? (place (Path.ofText root) entry.1) =
        some (.text entry.2.toText)) ∧
      ∀ path, (∀ entry ∈ store.collections, path ≠ place (Path.ofText root) entry.1) →
        after.at? path = files.at? path := by
  obtain ⟨after, written, rest⟩ := exists_writeAll rooted.standing rooted.ascending rooted.valid
    (fun entry member => rooted.free (rooted.valid entry member))
    fun entry member => short entry.1 (List.mem_map_of_mem member)
  refine ⟨after, ?_, rest⟩
  rw [Store.flush, rooted.located]
  exact written

/-- The store that is opened where a store was written is the one that was written. -/
theorem Rooted.flush {root : String} {store : Store} {files : Files}
    (rooted : Rooted root store files) (lasting : store.Lasting)
    (short : ∀ name ∈ store.names, name.toList.length ≤ maxNameLength) :
    ∃ after, store.flush files = (after, .ok ()) ∧ Rooted root store after ∧
      open? after root = (after, .ok store.reloaded) ∧
      ∀ path, (∀ name ∈ store.names, path ≠ place (Path.ofText root) name) →
        after.at? path = files.at? path := by
  have nameOf : ∀ entry ∈ store.collections, entry.1 ∈ store.names := fun entry member =>
    List.mem_map_of_mem member
  obtain ⟨after, flushed, standing, texts, others⟩ := rooted.exists_flush short
  have listed : ∀ name, isValidName name = true → ∀ found,
      after.at? (place (Path.ofText root) name) = some found →
        ∃ collection, (name, collection) ∈ store.collections ∧
          found = .text collection.toText := by
    intro name valid found there
    have present : name ∈ store.names := by
      by_contra missing
      -- no other file was written, so the file was there before
      have untouched : ∀ entry ∈ store.collections,
          place (Path.ofText root) name ≠ place (Path.ofText root) entry.1 := by
        intro entry member same
        exact missing (place_injective same ▸ nameOf entry member)
      rw [others _ untouched] at there
      exact missing (rooted.listed name valid found there).1
    obtain ⟨collection, member⟩ := mem_names.mp present
    rw [texts (name, collection) member] at there
    cases there
    exact ⟨collection, member, rfl⟩
  have loads : ∀ entry ∈ store.collections, load after root entry.1 = .ok entry.2.reloaded :=
    fun entry member => (load_eq_ok (rooted.valid entry member)).mpr
      ⟨entry.2.toText, texts entry member, (lasting entry member).ofText_toText, by
        rw [(lasting entry member).sound.reloaded_nextId]
        exact (lasting entry member).word⟩
  have stillRooted : Rooted root store after := by
    refine ⟨rooted.named, rooted.located, rooted.ascending, rooted.valid, standing,
      fun name valid found there => ?_⟩
    obtain ⟨collection, member, rfl⟩ := listed name valid found there
    exact ⟨nameOf _ member, fun same => by cases same⟩
  refine ⟨after, flushed, stillRooted, ?_, fun path elsewhere => others path fun entry member =>
    elsewhere entry.1 (nameOf entry member)⟩
  refine stillRooted.reloaded.open?_eq standing.makeDirectory fun entry member => ?_
  obtain ⟨before, there, rfl⟩ := mem_reloaded.mp member
  exact loads before there

end NetConsole.Store
