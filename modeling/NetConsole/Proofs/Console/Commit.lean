import NetConsole.Proofs.Console.Mirror
import NetConsole.Proofs.Store.Upsert

/-!
# Runs that fail and runs that succeed

A run of a command for a controller leaves every file as it found it, or else it succeeds. Then the
directory of the store holds the store that was there before with the listed records added, and
nothing else. How the logout ends has no part in that.
-/

set_option autoImplicit false

namespace NetConsole.Console

open Json Store Stepwise

theorem ControllerCommand.exists_visit {command : ControllerCommand} {p : Presentation}
    {options : Options} {config : Config} {scene : Scene}
    (succeeded : (command.run p options config scene).result = .ok ()) :
    ∃ wanted client store,
      connection options config scene.environment scene.secrets scene.home = .ok wanted ∧
      wanted.client scene.files scene.wire = .ok client ∧
      ((visitController wanted command p options.yes).run ⟨client, store, []⟩).1 = .ok () := by
  have runs := command.runs p options config scene
  generalize command.run p options config scene = outcome at runs succeeded
  cases runs with
  | unresolved | unbuilt | unopened => cases succeeded
  | @visited wanted session files store result visit ready ran =>
      cases result with
      | error failure => cases succeeded
      | ok done => exact ⟨_, _, _, ready.connection, ready.client, congrArg Prod.fst ran⟩

/-- A command that lists records has fetched them if its run succeeded. -/
theorem ControllerCommand.exists_fetched {command : ControllerCommand} {fetch : Fetch}
    (lists : command.fetch? = some fetch) {p : Presentation} {options : Options} {config : Config}
    {scene : Scene} (succeeded : (command.run p options config scene).result = .ok ()) :
    ∃ records, command.fetched? options config scene = some (fetch.resource, records) := by
  obtain ⟨wanted, client, store, resolved, built, visited⟩ := exists_visit succeeded
  rcases visitController_store visited with ⟨none, -⟩ | ⟨other, records, listed, fetched, -⟩
  · rw [lists] at none
    cases none
  · rw [lists] at listed
    cases listed
    exact ⟨records, ControllerCommand.fetched?_eq_some lists resolved built fetched⟩

/-- The store that a command leaves in memory: the one that was opened, with what was fetched. -/
def ControllerCommand.left (command : ControllerCommand) (options : Options) (config : Config)
    (scene : Scene) (store : Store) : Store :=
  match command.fetched? options config scene with
  | none => store
  | some (resource, records) => store.withRecords resource.collection records

/-- A run that opens the store fails before it writes, or else it writes the store and succeeds. -/
theorem ControllerCommand.run_written (command : ControllerCommand) (p : Presentation)
    {options : Options} {config : Config} {scene : Scene}
    (keeps : keepsRecords options config = true) (wellNamed : scene.files.WellNamed)
    {opened : Files} {store : Store}
    (found : open? scene.files (storeDirectory options config scene.home) = (opened, .ok store)) :
    (∃ failure, (command.run p options config scene).result = .error failure ∧
      ((command.run p options config scene).files = scene.files ∨
        (command.run p options config scene).files = opened)) ∨
    (command.run p options config scene).result = .ok () ∧
      (∀ name ∈ (command.left options config scene store).names,
        name.toList.length ≤ maxNameLength) ∧
      (command.left options config scene store).flush opened =
        ((command.run p options config scene).files, .ok ()) := by
  rcases command.run_opened p keeps found with failed | ⟨after, changed, files, result⟩
  · exact .inl failed
  · right
    obtain ⟨rooted, -⟩ := rooted_of_open? found
    have short := short_of_open? found wellNamed
    have writable : after = command.left options config scene store ∧
        Rooted (storeDirectory options config scene.home) after opened ∧
          ∀ name ∈ after.names, name.toList.length ≤ maxNameLength := by
      unfold ControllerCommand.left
      cases fetched : command.fetched? options config scene with
      | none =>
          rw [fetched] at changed
          cases changed
          exact ⟨rfl, rooted, short⟩
      | some pair =>
          rw [fetched] at changed
          cases changed
          refine ⟨rfl, rooted.put pair.1.isValidName _, fun name member => ?_⟩
          rcases mem_names_put rooted.ascending member with rfl | there
          · exact pair.1.collection_short
          · exact short name there
    obtain ⟨rfl, rooted, short⟩ := writable
    obtain ⟨written, flushed, -⟩ := rooted.exists_flush short
    rw [flushed] at files result
    rw [files]
    exact ⟨result, short, flushed⟩

/-- A run that fails leaves all files, and makes none. -/
theorem ControllerCommand.run_failed (command : ControllerCommand) (p : Presentation)
    (options : Options) (config : Config) {scene : Scene} (wellNamed : scene.files.WellNamed)
    {failure : Failure} (failed : (command.run p options config scene).result = .error failure)
    (path : Path) (content : String) :
    (command.run p options config scene).files.at? path = some (.text content) ↔
      scene.files.at? path = some (.text content) := by
  cases keeps : keepsRecords options config with
  | false => rw [command.run_unkept p scene keeps]
  | true =>
      rcases found : open? scene.files (storeDirectory options config scene.home) with
        ⟨opened, cause | store⟩
      · obtain ⟨_, -, files⟩ := command.run_unopened p keeps found
        rcases files with same | same
        · rw [same]
        · rw [same]
          exact text_of_open? found
      · rcases command.run_written p keeps wellNamed found with
          ⟨_, -, same | same⟩ | ⟨succeeded, -⟩
        · rw [same]
        · rw [same]
          exact text_of_open? found
        · rw [failed] at succeeded
          cases succeeded

theorem ControllerCommand.exists_opened {command : ControllerCommand} {p : Presentation}
    {options : Options} {config : Config} {scene : Scene}
    (keeps : keepsRecords options config = true)
    (succeeded : (command.run p options config scene).result = .ok ()) :
    ∃ opened before, open? scene.files (storeDirectory options config scene.home) =
      (opened, .ok before) := by
  rcases found : open? scene.files (storeDirectory options config scene.home) with
    ⟨opened, cause | store⟩
  · obtain ⟨failure, failed, -⟩ := command.run_unopened p keeps found
    rw [succeeded] at failed
    cases failed
  · exact ⟨opened, store, rfl⟩

theorem ControllerCommand.run_reopens {command : ControllerCommand} {p : Presentation}
    {options : Options} {config : Config} {scene : Scene}
    (keeps : keepsRecords options config = true) (wellNamed : scene.files.WellNamed)
    (succeeded : (command.run p options config scene).result = .ok ()) {opened : Files}
    {before : Store}
    (found : open? scene.files (storeDirectory options config scene.home) = (opened, .ok before))
    {count : Nat} (holds : Change.Keeps (storeDirectory options config scene.home) count
      (command.left options config scene before, opened)) :
    Reopens (command.run p options config scene).files (storeDirectory options config scene.home)
      (command.left options config scene before) := by
  rcases command.run_written p keeps wellNamed found with ⟨failure, failed, -⟩ | ⟨-, short, flushed⟩
  · rw [succeeded] at failed
    cases failed
  · exact holds.reopens short flushed

/-- A run that fails leaves all files as they are. After a run that succeeds, the directory holds
the store that was there before, as it was if the command lists nothing, and otherwise with those
of the listed records that are new added at the end of the collection of the command. -/
theorem Invocation.run_atomic (options : Options) (command : ControllerCommand) {scene : Scene}
    (wellNamed : scene.files.WellNamed) :
    (∀ failure, (Invocation.run ⟨options, .controller command⟩ scene).result = .error failure →
      ∀ path content,
        (Invocation.run ⟨options, .controller command⟩ scene).files.at? path =
          some (.text content) ↔ scene.files.at? path = some (.text content)) ∧
    ∀ config, Config.load scene.files scene.environment scene.home = .ok config →
      keepsRecords options config = true →
      (Invocation.run ⟨options, .controller command⟩ scene).result = .ok () →
      ∃ opened before,
        open? scene.files (storeDirectory options config scene.home) = (opened, .ok before) ∧
        match command.fetch? with
        | none =>
            before.Wide 0 →
              Reopens (Invocation.run ⟨options, .controller command⟩ scene).files
                (storeDirectory options config scene.home) before
        | some fetch =>
            ∃ records, command.fetched? options config scene = some (fetch.resource, records) ∧
              (scene.wire.IsIntegral → before.Wide records.length →
                Reopens (Invocation.run ⟨options, .controller command⟩ scene).files
                  (storeDirectory options config scene.home)
                  (before.withRecords fetch.resource.collection records) ∧
                (before.withRecords fetch.resource.collection records).documents
                    fetch.resource.collection =
                  .ok (before.kept fetch.resource.collection ++
                    numbered (Collection.nextAfter (before.kept fetch.resource.collection))
                      ((arrivals "_id" (before.kept fetch.resource.collection) records).map
                        Prod.snd)) ∧
                ∀ name ≠ fetch.resource.collection,
                  (before.withRecords fetch.resource.collection records).collection? name =
                    before.collection? name) := by
  cases loaded : Config.load scene.files scene.environment scene.home with
  | error cause =>
      have ran : Invocation.run ⟨options, .controller command⟩ scene =
          scene.failed (.config cause) := by
        simp only [Invocation.run, configured, loaded]
      rw [ran]
      exact ⟨fun _ _ _ _ => .rfl, fun config impossible => by cases impossible⟩
  | ok config =>
      have ran : Invocation.run ⟨options, .controller command⟩ scene =
          command.run (presentation options config) options config scene := by
        simp only [Invocation.run, configured, loaded]
      rw [ran]
      refine ⟨fun failure failed => command.run_failed _ options config wellNamed failed, ?_⟩
      intro config same keeps succeeded
      cases same
      obtain ⟨opened, before, found⟩ := ControllerCommand.exists_opened keeps succeeded
      refine ⟨opened, before, found, ?_⟩
      have reopens := @ControllerCommand.run_reopens command _ options config scene keeps wellNamed
        succeeded opened before found 0
      cases lists : command.fetch? with
      | none =>
          intro wide
          have left : command.left options config scene before = before := by
            rw [ControllerCommand.left, ControllerCommand.fetched?_eq_none lists]
          rw [left] at reopens
          exact reopens (wide.keeps found)
      | some fetch =>
          obtain ⟨records, fetched⟩ := ControllerCommand.exists_fetched lists succeeded
          refine ⟨records, fetched, fun integral wide => ?_⟩
          have keepable := command.keepable_of_fetched? integral fetched
          have left : command.left options config scene before =
              before.withRecords fetch.resource.collection records := by
            rw [ControllerCommand.left, fetched]
          have holds : Change.Keeps (storeDirectory options config scene.home)
              (0 + records.length) (before, opened) := by
            rw [Nat.zero_add]
            exact wide.keeps found
          rw [left] at reopens
          refine ⟨reopens (holds.withRecords fetch.resource.isValidName keepable),
            holds.withRecords_documents _ keepable, fun name other => ?_⟩
          exact (put_collection? holds.rooted.ascending _ _ name).trans (if_neg other)

/-- A scene in which a controller tells of one site, and another one is in the store. -/
def newSiteScene : Scene :=
  { siteScene "7" with
    files := ⟨[(["db"], .directory),
      (["db", "Sites.json"],
        .text "\x7b\"documents\":\x7b\"4\":\x7b\"_id\":\"b\"\x7d\x7d\x7d")]⟩ }

theorem run_atomic_sample :
    let before : Store :=
      ⟨some "/db", [("Sites", ⟨[(4, .object [("_id", .string "b")])], [], 5⟩)]⟩
    newSiteScene.files.WellNamed ∧ (siteListing.run newSiteScene).result = .ok () ∧
      open? newSiteScene.files "/db" = (newSiteScene.files, .ok before) ∧
      ∃ records, records.map Prod.fst = ["a"] ∧
        Reopens (siteListing.run newSiteScene).files "/db" (before.withRecords "Sites" records) := by
  intro before
  have wellNamed : newSiteScene.files.WellNamed :=
    Files.wellNamed_of_entries (by decide +kernel)
  have succeeded : (siteListing.run newSiteScene).result = .ok () := by decide +kernel
  have found : open? newSiteScene.files "/db" = (newSiteScene.files, .ok before) := by
    decide +kernel
  have listed : (Config.load newSiteScene.files newSiteScene.environment
      newSiteScene.home).toOption.bind (fun config =>
        ((ControllerCommand.sites (.list ⟨0, 0⟩)).fetched? siteListing.options config
          newSiteScene).map (·.2.map Prod.fst)) = some ["a"] := by decide +kernel
  refine ⟨wellNamed, succeeded, found, ?_⟩
  obtain ⟨-, committed⟩ :=
    Invocation.run_atomic siteListing.options (.sites (.list ⟨0, 0⟩)) wellNamed
  cases loaded : Config.load newSiteScene.files newSiteScene.environment newSiteScene.home with
  | error cause =>
      rw [loaded] at listed
      cases listed
  | ok config =>
      rw [loaded] at listed
      obtain ⟨opened, held, again, records, fetched, reopens⟩ :=
        committed config loaded rfl succeeded
      rw [Except.toOption, Option.bind_some, fetched] at listed
      have ids : records.map Prod.fst = ["a"] := Option.some.inj listed
      have one : records.length = 1 := by simpa using congrArg List.length ids
      cases found.symm.trans again
      have wide : before.Wide records.length := by
        rw [one]
        refine ⟨?_, by decide, by decide⟩
        simp [before, Json.IsIntegral, Every, EveryMember, Whole]
      exact ⟨records, ids, (reopens (by decide +kernel) wide).1⟩

/-- An integer that no word holds is kept as a fraction, whose text need not be read as the same
one: what is opened after the run is not the store with the site that was listed. -/
theorem not_reopens_of_large :
    let scene := siteScene "90476744073709544413"
    let before : Store := ⟨some "/db", []⟩
    scene.files.WellNamed ∧ (siteListing.run scene).result = .ok () ∧
      open? scene.files "/db" = (scene.files, .ok before) ∧
      ∃ config records, Config.load scene.files scene.environment scene.home = .ok config ∧
        (ControllerCommand.sites (.list ⟨0, 0⟩)).fetched? siteListing.options config scene =
          some (.sites, records) ∧
        ¬ Reopens (siteListing.run scene).files "/db" (before.withRecords "Sites" records) := by
  intro scene before
  have apart : (Config.load scene.files scene.environment scene.home).toOption.bind (fun config =>
      ((ControllerCommand.sites (.list ⟨0, 0⟩)).fetched? siteListing.options config scene).map
        fun listed => decide (listed.1 = .sites ∧
          (open? (siteListing.run scene).files "/db").2.toOption.map (·.documents "Sites") ≠
            some ((before.withRecords "Sites" listed.2).documents "Sites"))) = some true := by
    decide +kernel
  refine ⟨Files.wellNamed_of_entries (by decide +kernel), by decide +kernel, by decide +kernel, ?_⟩
  cases loaded : Config.load scene.files scene.environment scene.home with
  | error cause =>
      rw [loaded] at apart
      cases apart
  | ok config =>
      rw [loaded] at apart
      obtain ⟨⟨resource, records⟩, fetched, unlike⟩ := Option.map_eq_some_iff.mp apart
      obtain ⟨same, unlike⟩ := of_decide_eq_true unlike
      cases same
      refine ⟨config, records, rfl, fetched, fun reopens => unlike ?_⟩
      obtain ⟨after, found, alike⟩ := reopens
      rw [found]
      exact congrArg some (alike.documents "Sites")

end NetConsole.Console
