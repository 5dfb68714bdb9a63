import NetConsole.Proofs.Console.Fetches
import NetConsole.Proofs.Store.Mirrored

/-!
# The store over many runs

Runs of the program that keep their records in one directory make it a mirror of what they fetched:
under every id there is the record that was fetched first since its collection was cleaned, and no
run ever leaves a directory that the next one cannot open.
-/

set_option autoImplicit false

namespace NetConsole.Console

open Json Store Stepwise

/-! ## Deeds -/

/-- What is done to the collections of a store. -/
inductive Deed where
  /-- records are kept in a collection, each under its id -/
  | keeps (name : String) (records : List (String × Json))
  | cleans (names : List String)
  | nothing

namespace Deed

/-- What was fetched for each collection, once a deed is done as well. -/
def on : Deed → History → History
  | keeps name records, history => history.fetched name records
  | cleans names, history => history.cleaned names
  | nothing, history => history

/-- The number of records that are fetched for a deed. -/
def count : Deed → Nat
  | keeps _ records => records.length
  | cleans _ | nothing => 0

end Deed

/-- What a command for a controller does to the collections if it succeeds. -/
def ControllerCommand.deed (command : ControllerCommand) (options : Options) (config : Config)
    (scene : Scene) : Deed :=
  if keepsRecords options config then
    match command.fetched? options config scene with
    | some (resource, records) => .keeps resource.collection records
    | none => .nothing
  else .nothing

/-- What a command for a store does to the collections if it succeeds. -/
def StoreCommand.deed : StoreCommand → Deed
  | .clean target => .cleans (targets target)
  | .list | .show _ => .nothing

/-- What a command does to the collections if it succeeds. -/
def Command.deed (options : Options) (config : Config) (scene : Scene) : Command → Deed
  | .controller command => command.deed options config scene
  | .store command => command.deed
  | .config _ | .completions _ => .nothing

/-- What is done after all: a run that fails does nothing. -/
def Outcome.done (outcome : Outcome) (deed : Deed) : Deed :=
  match outcome.result with
  | .ok () => deed
  | .error _ => .nothing

namespace Invocation

/-- What a run does to the collections. -/
def deed (invocation : Invocation) (scene : Scene) : Deed :=
  match Config.load scene.files scene.environment scene.home with
  | .ok config =>
      (invocation.run scene).done (invocation.command.deed invocation.options config scene)
  | .error _ => .nothing

/-- The path of the store that a run has to do with, if there is one. -/
def storePath? (invocation : Invocation) (scene : Scene) : Option String :=
  match Config.load scene.files scene.environment scene.home, invocation.command with
  | .ok config, .controller _ =>
      if keepsRecords invocation.options config then
        some (storeDirectory invocation.options config scene.home)
      else none
  | .ok config, .store _ => some (storeDirectory invocation.options config scene.home)
  | _, _ => none

end Invocation

/-! ## One run -/

theorem Outcome.done_of_error {outcome : Outcome} {failure : Failure}
    (failed : outcome.result = .error failure) (deed : Deed) : outcome.done deed = .nothing := by
  rw [Outcome.done, failed]

theorem Outcome.done_of_ok {outcome : Outcome} (succeeded : outcome.result = .ok ())
    (deed : Deed) : outcome.done deed = deed := by
  rw [Outcome.done, succeeded]

theorem Outcome.done_nothing (outcome : Outcome) : outcome.done .nothing = .nothing := by
  unfold Outcome.done
  split <;> rfl

theorem Resource.collection_short (resource : Resource) :
    resource.collection.toList.length ≤ maxNameLength := by
  cases resource <;> decide

theorem targets_nodup (target : Option Resource) : (targets target).Nodup := by
  cases target with
  | none => decide
  | some resource => exact List.nodup_singleton _

theorem ControllerCommand.run_mirrored (command : ControllerCommand) (p : Presentation)
    {options : Options} {config : Config} {scene : Scene} {root : String} {room : Nat}
    {history : History} (keeps : keepsRecords options config = true)
    (integral : scene.wire.IsIntegral) (path : storeDirectory options config scene.home = root)
    (mirrored : Mirrored root (room + ((command.run p options config scene).done
      (command.deed options config scene)).count) history scene.files) :
    Mirrored root room (((command.run p options config scene).done
      (command.deed options config scene)).on history) (command.run p options config scene).files := by
  obtain ⟨opened, store, found, mirroring⟩ := mirrored
  rw [← path] at found
  rcases command.run_opened p keeps found with
    ⟨failure, failed, files⟩ | ⟨after, changed, files, result⟩
  · rw [Outcome.done_of_error failed] at mirroring ⊢
    rw [path] at found
    rcases files with same | same
    · rw [same]
      exact ⟨opened, store, found, mirroring⟩
    · rw [same]
      exact mirroring.mirrored found
  · have rooted : Rooted root after opened ∧
        ∀ name ∈ after.names, name.toList.length ≤ maxNameLength := by
      have before : Rooted root store opened := mirroring.keeps.rooted
      cases fetched : command.fetched? options config scene with
      | none =>
          rw [fetched] at changed
          cases changed
          exact ⟨before, mirroring.short⟩
      | some pair =>
          rw [fetched] at changed
          cases changed
          refine ⟨before.put pair.1.isValidName _, fun name member => ?_⟩
          rcases mem_names_put before.ascending member with rfl | there
          · exact pair.1.collection_short
          · exact mirroring.short name there
    obtain ⟨written, flushed, -⟩ := rooted.1.exists_flush rooted.2
    rw [flushed] at files result
    rw [Outcome.done_of_ok result] at mirroring ⊢
    rw [files]
    have holds : Mirroring root room ((command.deed options config scene).on history) after
        opened := by
      unfold ControllerCommand.deed at mirroring ⊢
      rw [if_pos keeps] at mirroring ⊢
      cases fetched : command.fetched? options config scene with
      | none =>
          rw [fetched] at changed mirroring
          cases changed
          exact mirroring
      | some pair =>
          rw [fetched] at changed mirroring
          cases changed
          exact mirroring.withRecords pair.1.isValidName pair.1.collection_short
            (command.keepable_of_fetched? integral fetched)
    obtain ⟨again, flushedAgain, mirrored⟩ := holds.exists_flush
    rw [flushed] at flushedAgain
    cases flushedAgain
    exact mirrored

theorem StoreCommand.run_mirrored (command : StoreCommand) (p : Presentation) (yes : Bool)
    {root : String} {store : Store} {scene : Scene} {files : Files} {room : Nat}
    {history : History} (found : open? files root = (scene.files, .ok store))
    (mirroring : Mirroring root room history store scene.files) :
    Mirrored root room (((command.run p yes store scene).done command.deed).on history)
      (command.run p yes store scene).files := by
  have kept := mirroring.mirrored found
  cases command with
  | list => exact kept
  | «show» name =>
      rw [StoreCommand.deed, Outcome.done_nothing, StoreCommand.run]
      cases store.documents name <;> exact kept
  | clean target =>
      obtain ⟨changed, after, dropped, cleaned⟩ :=
        mirroring.exists_dropAll (targets_nodup target)
      unfold StoreCommand.run
      dsimp only
      split
      case isTrue nothing =>
        -- there is nothing to drop, and so nothing that was mirrored
        rw [List.isEmpty_iff.mp nothing] at dropped
        cases dropped
        exact cleaned.mirrored found
      case isFalse =>
        split
        case isTrue => exact kept
        case isFalse =>
          obtain ⟨written, flushed, mirrored⟩ := cleaned.exists_flush
          have done : dropCollections store scene.files ((targets target).filter store.contains) =
              (written, .ok ()) := by
            rw [dropCollections, dropped]
            exact flushed
          rw [done]
          exact mirrored

theorem ConfigCommand.run_files (command : ConfigCommand) (p : Presentation) (options : Options)
    (config : Config) (scene : Scene) :
    (command.run p options config scene).files = scene.files := by
  unfold ConfigCommand.run
  cases command with
  | init => rfl
  | «show» => rfl
  | setPassword =>
      dsimp only
      split <;> rfl

/-- A directory without a path is not opened. -/
theorem open?_nowhere (files : Files) (root : String) (nowhere : root = "") :
    open? files root = (files, .error (.files root)) := if_pos nowhere

/-- A command for a controller keeps a directory a mirror, if it keeps its records there or does not
keep them. -/
theorem ControllerCommand.keeps_mirrored (command : ControllerCommand) (p : Presentation)
    {options : Options} {config : Config} {scene : Scene} {root : String} {room : Nat}
    {history : History} (integral : scene.wire.IsIntegral)
    (uses : keepsRecords options config = true →
      Path.ofText (storeDirectory options config scene.home) = Path.ofText root)
    (mirrored : Mirrored root (room + ((command.run p options config scene).done
      (command.deed options config scene)).count) history scene.files) :
    Mirrored root room (((command.run p options config scene).done
      (command.deed options config scene)).on history) (command.run p options config scene).files := by
  cases keeps : keepsRecords options config with
  | false =>
      have nothing : command.deed options config scene = .nothing := by
        rw [ControllerCommand.deed, keeps]
        rfl
      rw [nothing, Outcome.done_nothing] at mirrored ⊢
      rw [command.run_unkept _ scene keeps]
      exact mirrored
  | true =>
      by_cases named : storeDirectory options config scene.home = ""
      · obtain ⟨failure, failed, files⟩ :=
          command.run_unopened p keeps (open?_nowhere scene.files _ named)
        rw [Outcome.done_of_error failed] at mirrored ⊢
        rw [or_self_iff.mp files]
        exact mirrored
      · have moved := mirrored.relocate named (uses keeps)
        exact (command.run_mirrored p keeps integral rfl moved).relocate mirrored.named
          (uses keeps).symm

/-- A run that has to do with one directory at most keeps it a mirror. -/
theorem Invocation.run_mirrored (invocation : Invocation) {scene : Scene} {root : String}
    {room : Nat} {history : History} (integral : scene.wire.IsIntegral)
    (uses : ∀ path, invocation.storePath? scene = some path → Path.ofText path = Path.ofText root)
    (mirrored : Mirrored root (room + (invocation.deed scene).count) history scene.files) :
    Mirrored root room ((invocation.deed scene).on history) (invocation.run scene).files := by
  obtain ⟨options, command⟩ := invocation
  unfold Invocation.deed at mirrored ⊢
  unfold Invocation.storePath? at uses
  cases loaded : Config.load scene.files scene.environment scene.home with
  | error cause =>
      rw [loaded] at mirrored
      have files : (Invocation.run ⟨options, command⟩ scene).files = scene.files := by
        cases command <;> simp only [Invocation.run, configured, loaded, Scene.failed]
      rw [files]
      exact mirrored
  | ok config =>
      rw [loaded] at mirrored uses
      dsimp only at mirrored uses ⊢
      cases command with
      | completions shell => exact mirrored
      | config command =>
          have ran : Invocation.run ⟨options, .config command⟩ scene =
              command.run (presentation options config) options config scene := by
            simp only [Invocation.run, configured, loaded]
          rw [Command.deed, Outcome.done_nothing] at mirrored ⊢
          rw [ran, ConfigCommand.run_files]
          exact mirrored
      | controller command =>
          have ran : Invocation.run ⟨options, .controller command⟩ scene =
              command.run (presentation options config) options config scene := by
            simp only [Invocation.run, configured, loaded]
          rw [ran, Command.deed] at mirrored ⊢
          exact command.keeps_mirrored _ integral (fun keeps => uses _ (if_pos keeps)) mirrored
      | store command =>
          have same := uses (storeDirectory options config scene.home) rfl
          by_cases named : storeDirectory options config scene.home = ""
          · have ran : Invocation.run ⟨options, .store command⟩ scene =
                { result := .error (.ofStore (.files (storeDirectory options config scene.home)))
                  files := scene.files } := by
              simp only [Invocation.run, configured, loaded, open?_nowhere _ _ named]
            rw [ran] at mirrored ⊢
            exact mirrored
          · obtain ⟨opened, store, found, mirroring⟩ := mirrored.relocate named same
            have ran : Invocation.run ⟨options, .store command⟩ scene =
                command.run (presentation options config) options.yes store
                  { scene with files := opened } := by
              simp only [Invocation.run, configured, loaded, found]
            have enough := mirroring.mono (Nat.le_add_right room _)
            have kept := @StoreCommand.run_mirrored command (presentation options config) options.yes
              _ store { scene with files := opened } _ room history found enough
            rw [ran]
            exact kept.relocate mirrored.named same.symm

/-! ## Many runs -/

/-- What runs of the program can make of files, if they have to do with one directory, and nothing
else is written there: the files, what was fetched for each collection since it was cleaned, and how
many records were fetched in all. -/
inductive Reached (root : String) (start : Files) : Files → History → Nat → Prop where
  | start : Reached root start start (fun _ => []) 0
  | elsewhere {files other : Files} {history : History} {count : Nat} :
      Reached root start files history count → Files.Agree (Path.ofText root) files other →
      Reached root start other history count
  | run {history : History} {count : Nat} (invocation : Invocation) (scene : Scene) :
      Reached root start scene.files history count → scene.wire.IsIntegral →
      (∀ path, invocation.storePath? scene = some path → Path.ofText path = Path.ofText root) →
      Reached root start (invocation.run scene).files ((invocation.deed scene).on history)
        (count + (invocation.deed scene).count)

theorem mirrored_start {root : String} {start : Files}
    (empty : (open? start root).2 = .ok ⟨some root, []⟩) {room : Nat}
    (fresh : 1 + room < Decimal.words64) : Mirrored root room (fun _ => []) start := by
  rcases found : open? start root with ⟨opened, result⟩
  rw [found] at empty
  cases empty
  obtain ⟨rooted, -⟩ := rooted_of_open? found
  have spacious : Store.Spacious room ⟨some root, []⟩ :=
    fun _ member => absurd member List.not_mem_nil
  exact ⟨opened, ⟨some root, []⟩, found, ⟨rooted, spacious, fresh⟩,
    fun _ member => absurd member List.not_mem_nil,
    fun _ _ member => absurd member List.not_mem_nil, fun _ => rfl⟩

theorem Reached.mirrored {root : String} {start files : Files} {history : History} {count : Nat}
    (reached : Reached root start files history count)
    (empty : (open? start root).2 = .ok ⟨some root, []⟩) {room : Nat}
    (fresh : 1 + (room + count) < Decimal.words64) : Mirrored root room history files := by
  induction reached generalizing room with
  | start => exact mirrored_start empty fresh
  | elsewhere _ agree ih => exact (ih fresh).agree agree
  | run invocation scene _ integral uses ih =>
      refine invocation.run_mirrored integral uses (ih ?_)
      rw [Nat.add_right_comm room, Nat.add_assoc room]
      exact fresh

/-- After any number of runs the directory can be opened, no two documents of a collection have the
same id, the ids are those of the records that were fetched since the collection was cleaned, and
each document is the record that was fetched first with its id. -/
theorem Reached.opens_mirror {root : String} {start files : Files} {history : History} {count : Nat}
    (reached : Reached root start files history count)
    (empty : (open? start root).2 = .ok ⟨some root, []⟩) (fresh : count + 1 < Decimal.words64) :
    ∃ opened store, open? files root = (opened, .ok store) ∧
      ∀ name, Store.Mirrors (history name) (store.held name) := by
  have room : 1 + (0 + count) < Decimal.words64 := by omega
  exact (reached.mirrored empty room).mirrors

/-- A scene in which a controller tells of one site, which has a number, and the directory of the
store is empty. -/
def siteScene (number : String) : Scene where
  home := "/home"
  environment := []
  files := ⟨[(["db"], .directory)]⟩
  wire :=
    { reaches := fun _ => true
      replies :=
        [.answer ⟨200, [("set-cookie", "unifises=s"), ("set-cookie", "csrf_token=t")], [], true, []⟩,
          .answer ⟨200, [], Text.bytes ("\x7b\"data\":[\x7b\"_id\":\"a\",\"n\":" ++ number ++
            "\x7d]\x7d"), true, []⟩]
      sent := [] }

/-- The invocation that lists sites and keeps them. -/
def siteListing : Invocation where
  options :=
    { controller := some "http://[::1]", username := some "u", password := some "p"
      storePath := some "/db", useStore := true }
  command := .controller (.sites (.list ⟨0, 0⟩))

theorem opens_mirror_sample :
    let scene := siteScene "7"
    (siteListing.deed scene).count = 1 ∧
      ∃ opened store, open? (siteListing.run scene).files "/db" = (opened, .ok store) ∧
        ∀ name, Store.Mirrors ((siteListing.deed scene).on (fun _ => []) name)
          (store.held name) := by
  intro scene
  have one : (siteListing.deed scene).count = 1 := by decide +kernel
  have few : 0 + (siteListing.deed scene).count + 1 < Decimal.words64 := by
    rw [one]
    decide
  refine ⟨one, (Reached.run siteListing scene .start (by decide +kernel) ?_).opens_mirror
    (by decide +kernel) few⟩
  intro path uses
  have database : siteListing.storePath? scene = some "/db" := by decide +kernel
  rw [database] at uses
  cases uses
  rfl

/-- An integer that no word holds is kept as a fraction, and the text of a fraction need not be read
as the same one: the site that is found when the directory is opened is not the one that was
fetched. -/
theorem not_mirrors_of_large :
    let scene := siteScene "90476744073709544413"
    open? scene.files "/db" = (scene.files, .ok ⟨some "/db", []⟩) ∧
      ∃ opened store, open? (siteListing.run scene).files "/db" = (opened, .ok store) ∧
        ¬ Store.Mirrors ((siteListing.deed scene).on (fun _ => []) "Sites")
          (store.held "Sites") := by
  intro scene
  have apart : (open? (siteListing.run scene).files "/db").2.toOption.map (fun store =>
      decide (∃ document ∈ store.held "Sites",
        ∀ record ∈ (siteListing.deed scene).on (fun _ => []) "Sites", record.2 ≠ document)) =
      some true := by decide +kernel
  refine ⟨by decide +kernel, ?_⟩
  rcases found : open? (siteListing.run scene).files "/db" with ⟨opened, result⟩
  rw [found] at apart
  cases result with
  | error cause => cases apart
  | ok store =>
      refine ⟨opened, store, rfl, fun mirrors => ?_⟩
      obtain ⟨document, there, unlike⟩ := of_decide_eq_true (Option.some.inj apart)
      obtain ⟨id, -, fetched⟩ := mirrors.first document there
      exact unlike _ (List.mem_of_find?_eq_some fetched) rfl

end NetConsole.Console
