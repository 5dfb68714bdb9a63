import NetConsole.Proofs.Arguments.Words
import NetConsole.Proofs.Client.Harmless
import NetConsole.Proofs.Console.Commit

/-!
# Runs that were not confirmed

What takes an access point out of service and what drops collections has to be confirmed. A run
that was not told to go ahead sends no such request and loses no file, whatever the command, the
configuration, the files and the answers are; only a request that the user words himself is not
looked into.
-/

set_option autoImplicit false

namespace NetConsole

/-! ## Files that stay -/

namespace Files

/-- Every file of one tree is a file of another, whatever its text is there. -/
def Lasts (before after : Files) : Prop :=
  ∀ path content, before.at? path = some (.text content) →
    ∃ now, after.at? path = some (.text now)

theorem Lasts.refl (files : Files) : files.Lasts files := fun _ content there => ⟨content, there⟩

theorem Lasts.trans {one two three : Files} (first : one.Lasts two) (second : two.Lasts three) :
    one.Lasts three := by
  intro path content there
  obtain ⟨now, kept⟩ := first path content there
  exact second path now kept

theorem lasts_of_write {files after : Files} {path : Path} {content : String}
    (written : files.write path content = some after) : files.Lasts after := by
  unfold write at written
  split at written
  · cases written
  · next name last =>
      split at written
      · cases written
        have below : path ≠ [] := by
          rintro rfl
          cases last
        intro other text there
        by_cases same : other = path
        · exact ⟨content, by rw [at?_put files below, if_pos same]⟩
        · exact ⟨text, by rw [at?_put files below, if_neg same, there]⟩
      · cases written

end Files

namespace Store

theorem lasts_of_writeAll {root : String} {entries : List (String × Collection)}
    (files : Files) : files.Lasts (writeAll root files entries).1 := by
  induction entries generalizing files with
  | nil => exact .refl files
  | cons entry rest ih =>
      rw [writeAll]
      cases written : files.write (Path.ofText (filePath root entry.1)) entry.2.toText with
      | none => exact .refl files
      | some after => exact (Files.lasts_of_write written).trans (ih after)

theorem lasts_of_flush (store : Store) (files : Files) : files.Lasts (store.flush files).1 := by
  unfold flush
  cases store.root with
  | none => exact .refl files
  | some root => exact lasts_of_writeAll files

theorem lasts_of_open? (files : Files) (root : String) : files.Lasts (open? files root).1 :=
  fun _ content there => ⟨content, (text_of_open? (Prod.eta _).symm).mpr there⟩

end Store

namespace Console

open Arguments Stepwise

theorem lasts_of_openStore {options : Options} {config : Config} {scene : Scene} {files : Files}
    {result : Except Store.Error (Option Store)}
    (opened : openStore options config scene = (files, result)) : scene.files.Lasts files := by
  unfold openStore at opened
  split at opened
  · cases opened
    exact Store.lasts_of_open? _ _
  · cases opened
    exact .refl _

/-! ## Command lines -/

/-- The limits of a guest are machine words, if a command sets any. -/
def Command.LimitsFit (command : Command) : Prop :=
  ∀ mac limits, command = .controller (.stations (.authorizeGuest mac limits)) → limits.Fits

/-- Whether a command sets limits for a guest. -/
def Command.setsLimits : Command → Bool
  | .controller (.stations (.authorizeGuest _ _)) => true
  | _ => false

theorem fits_leaf {name : String} {aliases : List String} {parameters : List Parameter}
    {places : List Place} {meaning : Matches → Command}
    (free : ∀ found, (meaning found).setsLimits = false)
    (parametersFit : ∀ parameter ∈ parameters, parameter.effect.Fits)
    (placesFit : ∀ place ∈ places, place.kind.Fits) :
    (Arguments.Command.leaf name aliases parameters places meaning).Fits Command.LimitsFit := by
  refine .leaf parametersFit placesFit fun found _ mac limits same => ?_
  have none := free found
  rw [same] at none
  cases none

theorem fits_recordGroup (name : String) (aliases : List String)
    {meaning : RecordCommand → ControllerCommand}
    (free : ∀ command, (Command.controller (meaning command)).setsLimits = false) :
    (recordGroup name aliases meaning).Fits Command.LimitsFit := by
  refine .ofAll ⟨?list, ?get⟩
  all_goals exact fits_leaf (fun _ => free _) (by decide) (by decide)

theorem fits_deviceGroup : deviceGroup.Fits Command.LimitsFit := by
  refine .ofAll ⟨?list, ?get, ?inspect, ?address⟩
  all_goals exact fits_leaf (fun _ => rfl) (by decide) (by decide)

theorem fits_accessPointGroup : accessPointGroup.Fits Command.LimitsFit := by
  refine .ofAll ⟨?locate, ?locating, ?restart, ?disable, ?enable, ?rename⟩
  all_goals exact fits_leaf (fun _ => rfl) (by decide) (by decide)

theorem fits_stationGroup : stationGroup.Fits Command.LimitsFit := by
  refine .ofAll ⟨?block, ?unblock, ?authorize, ?unauthorize⟩
  case authorize =>
    refine .leaf (by decide) (by decide) fun found fits mac limits same => ?_
    cases same
    constructor <;> exact fun i there => fits.integer? there
  all_goals exact fits_leaf (fun _ => rfl) (by decide) (by decide)

theorem fits_storeGroup : storeGroup.Fits Command.LimitsFit := by
  refine .ofAll ⟨?list, ?contents, ?clean⟩
  all_goals exact fits_leaf (fun _ => rfl) (by decide) (by decide)

theorem fits_configGroup : configGroup.Fits Command.LimitsFit := by
  refine .ofAll ⟨?init, ?sheet, ?setPassword⟩
  all_goals exact fits_leaf (fun _ => rfl) (by decide) (by decide)

theorem fits_program : program.Fits Command.LimitsFit where
  shared := by decide
  command := by
    refine .ofAll ⟨?alarms, ?events, fits_deviceGroup, fits_accessPointGroup, fits_stationGroup,
      ?users, ?sites, ?raw, fits_storeGroup, fits_configGroup, ?completions⟩
    case alarms | events | users | sites => exact fits_recordGroup _ _ fun _ => rfl
    case raw | completions => exact fits_leaf (fun _ => rfl) (by decide) (by decide)

theorem limitsFit_of_read {environment : Environment} {arguments : List String}
    {invocation : Invocation} (read : Invocation.read environment arguments = .ok invocation) :
    invocation.command.LimitsFit := by
  obtain ⟨⟨found, command⟩, reads, same⟩ := bind_eq_ok.mp read
  cases same
  exact (read_holds fits_program reads).2

/-! ## Visits -/

theorem Visit.lasts_outcome (files : Files) (result : Except Failure Unit) (visit : Visit) :
    files.Lasts (visit.outcome files result).files := by
  cases result with
  | error failure => exact .refl files
  | ok done =>
      obtain ⟨client, store, output⟩ := visit
      cases store with
      | none => exact .refl files
      | some store => exact Store.lasts_of_flush store files

variable {command : ControllerCommand} {p : Presentation} {options : Options} {config : Config}
  {scene : Scene}

theorem Ready.run {wanted : Connection} {session : Session} {files : Files} {store : Option Store}
    (ready : Ready options config scene wanted session files store) :
    let visited := (visitController wanted command p options.yes).run
      ⟨.fresh session scene.wire, store, []⟩
    command.run p options config scene = visited.2.outcome files visited.1 := by
  dsimp only
  unfold ControllerCommand.run
  rw [ready.connection]
  dsimp only
  rw [ready.client]
  dsimp only
  rw [ready.opened]
  dsimp only
  rcases (visitController wanted command p options.yes).run
    ⟨.fresh session scene.wire, store, []⟩ with ⟨_ | _, visit⟩ <;> rfl

/-- A run gets as far as a visit, or it leaves the files as they were once the store was opened. -/
theorem ControllerCommand.run_cases (command : ControllerCommand) (p : Presentation)
    (options : Options) (config : Config) (scene : Scene) :
    ((command.run p options config scene).attempts = [] ∧
      scene.files.Lasts (command.run p options config scene).files) ∨
    ∃ wanted session files store, Ready options config scene wanted session files store := by
  have runs := command.runs p options config scene
  generalize command.run p options config scene = outcome at runs
  cases runs with
  | unresolved | unbuilt => exact .inl ⟨rfl, .refl _⟩
  | unopened _ _ opened => exact .inl ⟨rfl, lasts_of_openStore opened⟩
  | visited ready _ => exact .inr ⟨_, _, _, _, ready⟩

/-- Everything that a run sets out to make is a login, a logout, or asked for by the call behind
its command. -/
theorem ControllerCommand.run_attempts {property : Request → Prop}
    (login : ∀ username password, property (Client.loginRequest username password))
    (logout : property Client.logoutRequest)
    (asked : ∀ call, command.call? options.yes = some call →
      ∀ request, call.MayAsk request → property request) :
    ∀ request ∈ (command.run p options config scene).attempts, property request := by
  rcases command.run_cases p options config scene with
    ⟨nothing, -⟩ | ⟨wanted, session, files, store, ready⟩
  · rw [nothing]
    exact fun _ member => absurd member List.not_mem_nil
  · have each (result : Except Failure Unit) : ∀ call ∈ visitCalls wanted command options.yes
        result (.fresh session scene.wire), ∀ request, call.MayAsk request → property request := by
      intro call member request may
      unfold visitCalls at member
      split at member
      · obtain rfl := List.mem_singleton.mp member
        exact may ▸ login _ _
      · simp only [List.mem_cons, List.mem_append, Option.mem_toList] at member
        rcases member with rfl | own | after
        · exact may ▸ login _ _
        · exact asked call own request may
        · rw [eq_logout_of_mem_parting after] at may
          exact may ▸ logout
    obtain ⟨tried, attempts, hold⟩ := Call.asks_clientAfter _ (each _) (.fresh session scene.wire)
    rw [ready.run, Visit.outcome_attempts, visitController_client, attempts]
    exact hold

/-! ## Actions that have to be confirmed -/

/-- What has to be confirmed of a command for access points. -/
def AccessPointCommand.action? : AccessPointCommand → Option String
  | .restart _ => some "ap restart"
  | .disable _ => some "ap disable"
  | _ => none

theorem AccessPointCommand.call?_unconfirmed {command : AccessPointCommand} {action : String}
    (guarded : command.action? = some action) : command.call? false = none := by
  cases command with
  | restart | disable => rfl
  | _ => cases guarded

theorem AccessPointCommand.visit_unconfirmed {command : AccessPointCommand} {action : String}
    (guarded : command.action? = some action) (p : Presentation) (visit : Visit) :
    (command.visit p false).run visit = (.error (.unconfirmed action), visit) := by
  cases command with
  | restart | disable => cases guarded; rfl
  | _ => cases guarded

theorem ControllerCommand.isHarmless_call {call : Call} (made : command.call? false = some call)
    (worded : ∀ raw, command ≠ .raw raw)
    (fits : (Command.controller command).LimitsFit) : call.IsHarmless := by
  cases command with
  | raw raw => exact absurd rfl (worded raw)
  | alarms command | events command | users command | sites command | devices command =>
      cases made
      cases command <;> trivial
  | accessPoints command =>
      cases command with
      | restart | disable => cases made
      | locate | locating | rename => cases made; trivial
      | enable => cases made; rfl
  | stations command =>
      cases made
      cases command with
      | authorizeGuest mac limits => exact fits mac limits rfl
      | block | unblock | unauthorizeGuest => trivial

/-- A run whose login succeeds. -/
def LogsIn (options : Options) (scene : Scene) (wanted : Connection) : Prop :=
  ∃ config session files store,
    Config.load scene.files scene.environment scene.home = .ok config ∧
    Ready options config scene wanted session files store ∧
    ((Call.login wanted.username wanted.password).turn (.fresh session scene.wire)).result = .ok ()

theorem Ready.run_unconfirmed {wanted : Connection} {session : Session} {files : Files}
    {store : Option Store} {command : AccessPointCommand} {action : String}
    (ready : Ready options config scene wanted session files store)
    (unconfirmed : options.yes = false) (guarded : command.action? = some action)
    (login : ((Call.login wanted.username wanted.password).turn
      (.fresh session scene.wire)).result = .ok ()) :
    ((ControllerCommand.accessPoints command).run p options config scene).attempts =
        [Client.loginRequest wanted.username wanted.password, Client.logoutRequest] ∧
      ((ControllerCommand.accessPoints command).run p options config scene).result =
        .error (.unconfirmed action) := by
  have visited : ((visitController wanted (.accessPoints command) p options.yes).run
      ⟨.fresh session scene.wire, store, []⟩).1 = .error (.unconfirmed action) := by
    simp [run_visitController, login, unconfirmed, ControllerCommand.visit,
      AccessPointCommand.visit_unconfirmed guarded]
  rw [ready.run]
  constructor
  · have calls : visitCalls wanted (.accessPoints command) options.yes
        (.error (.unconfirmed action)) (.fresh session scene.wire) =
          [.login wanted.username wanted.password, .logout] := by
      have none := AccessPointCommand.call?_unconfirmed guarded
      simp [visitCalls, login, unconfirmed, ControllerCommand.call?, none, parting]
    rw [Visit.outcome_attempts, visitController_client, visited, calls]
    simp [Call.clientAfter, logout_attempts, login_attempts, Client.fresh]
  · rw [visited]
    rfl

/-- What holds of every run that was not confirmed. -/
structure Unconfirmed (invocation : Invocation) (scene : Scene) : Prop where
  /-- Nothing that goes out restarts or disables anything, -/
  harmless : ∀ sent ∈ (invocation.run scene).sent.drop scene.wire.sent.length, sent.IsHarmless
  /-- and every file that was there is there afterwards. -/
  lasts : scene.files.Lasts (invocation.run scene).files
  /-- An action that has to be confirmed comes to nothing between the login and the logout. -/
  refused : ∀ command action wanted, invocation.command = .controller (.accessPoints command) →
    command.action? = some action → LogsIn invocation.options scene wanted →
    (invocation.run scene).attempts =
        [Client.loginRequest wanted.username wanted.password, Client.logoutRequest] ∧
      (invocation.run scene).result = .error (.unconfirmed action) ∧
      (Failure.unconfirmed action).exitStatus = 2
  /-- Cleaning a store that opens changes no file. It succeeds if there is nothing to clean, and
  otherwise has to be confirmed. -/
  cleaned : ∀ target config opened store, invocation.command = .store (.clean target) →
    Config.load scene.files scene.environment scene.home = .ok config →
    Store.open? scene.files (storeDirectory invocation.options config scene.home) =
      (opened, .ok store) →
    (invocation.run scene).files = opened ∧
    (∀ path content, opened.at? path = some (.text content) ↔
      scene.files.at? path = some (.text content)) ∧
    if ∃ name ∈ targets target, store.contains name = true then
      (invocation.run scene).result = .error (.unconfirmed "db clean") ∧
        (Failure.unconfirmed "db clean").exitStatus = 2
    else (invocation.run scene).result = .ok ()

theorem run_eq_of_config {options : Options} {scene : Scene} {config : Config}
    (loaded : Config.load scene.files scene.environment scene.home = .ok config)
    (command : ControllerCommand) : Invocation.run ⟨options, .controller command⟩ scene =
      command.run (presentation options config) options config scene := by
  simp only [Invocation.run, configured, loaded]

theorem run_eq_of_error {options : Options} {scene : Scene} {cause : Config.Error}
    (failed : Config.load scene.files scene.environment scene.home = .error cause)
    (command : ControllerCommand) : Invocation.run ⟨options, .controller command⟩ scene =
      scene.failed (.config cause) := by
  simp only [Invocation.run, configured, failed]

theorem unconfirmed_controller {options : Options} (unconfirmed : options.yes = false)
    {command : ControllerCommand} (worded : ∀ raw, command ≠ .raw raw)
    (fits : (Command.controller command).LimitsFit) (scene : Scene) :
    Unconfirmed ⟨options, .controller command⟩ scene where
  harmless := by
    intro sent member
    cases loaded : Config.load scene.files scene.environment scene.home with
    | error cause =>
        rw [run_eq_of_error loaded] at member
        simp [Scene.failed] at member
    | ok config =>
        rw [run_eq_of_config loaded] at member
        obtain ⟨session, words⟩ := command.run_sent (presentation options config) options config scene
        obtain ⟨request, tried, wording⟩ := exists_of_mem_sublistForall₂ words member
        have each : ∀ call, command.call? options.yes = some call →
            ∀ request, call.MayAsk request → request.IsHarmless := by
          intro call made request asked
          rw [unconfirmed] at made
          exact (ControllerCommand.isHarmless_call made worded fits).asked asked
        exact wording.isHarmless (ControllerCommand.run_attempts Client.isHarmless_login
          Client.isHarmless_logout each request tried)
  lasts := by
    cases loaded : Config.load scene.files scene.environment scene.home with
    | error cause =>
        rw [run_eq_of_error loaded]
        exact .refl _
    | ok config =>
        rw [run_eq_of_config loaded]
        rcases command.run_cases (presentation options config) options config scene with
          ⟨-, lasts⟩ | ⟨wanted, session, files, store, ready⟩
        · exact lasts
        · rw [ready.run]
          exact (lasts_of_openStore ready.opened).trans (Visit.lasts_outcome files _ _)
  refused := by
    rintro command action wanted ⟨⟩ guarded ⟨config, session, files, store, loaded, ready, login⟩
    rw [run_eq_of_config loaded]
    obtain ⟨attempts, result⟩ := ready.run_unconfirmed unconfirmed guarded login
    exact ⟨attempts, result, rfl⟩
  cleaned := by
    rintro target config opened store ⟨⟩

theorem StoreCommand.run_unconfirmed (command : StoreCommand) (p : Presentation) (store : Store)
    (scene : Scene) : (command.run p false store scene).files = scene.files ∧
      (command.run p false store scene).sent = [] := by
  rcases command with _ | name | target
  · exact ⟨rfl, rfl⟩
  · rw [StoreCommand.run]
    cases store.documents name <;> exact ⟨rfl, rfl⟩
  · simp only [StoreCommand.run]
    split <;> exact ⟨rfl, rfl⟩

theorem StoreCommand.run_clean (target : Option Resource) (p : Presentation) (store : Store)
    (scene : Scene) : (StoreCommand.run (.clean target) p false store scene).result =
      if ∃ name ∈ targets target, store.contains name = true then .error (.unconfirmed "db clean")
      else .ok () := by
  have empty : ((targets target).filter store.contains).isEmpty = true ↔
      ¬ ∃ name ∈ targets target, store.contains name = true := by
    simp [List.filter_eq_nil_iff]
  by_cases full : ∃ name ∈ targets target, store.contains name = true
  · simp [StoreCommand.run, empty, full, Scene.failed]
  · simp [StoreCommand.run, empty, full]

theorem ConfigCommand.run_sent (command : ConfigCommand) (p : Presentation) (options : Options)
    (config : Config) (scene : Scene) : (command.run p options config scene).sent = [] := by
  rcases command with _ | _ | _
  · rfl
  · rfl
  · simp only [ConfigCommand.run]
    split <;> rfl

/-- An outcome without requests, after which every file of a scene is still there. -/
def Outcome.Quiet (scene : Scene) (outcome : Outcome) : Prop :=
  outcome.sent = [] ∧ scene.files.Lasts outcome.files

theorem quiet_failed (scene : Scene) (failure : Failure) : (scene.failed failure).Quiet scene :=
  ⟨rfl, .refl _⟩

theorem quiet_configured {go : Config → Presentation → Outcome}
    (quiet : ∀ config p, (go config p).Quiet scene) : (configured options scene go).Quiet scene := by
  unfold configured
  cases Config.load scene.files scene.environment scene.home with
  | error cause => exact quiet_failed scene _
  | ok config => exact quiet config _

/-- A run that needs no controller sends nothing, and loses no file unless it was confirmed. -/
theorem quiet_run {invocation : Invocation} (unconfirmed : invocation.options.yes = false)
    (indoors : ∀ command, invocation.command ≠ .controller command) (scene : Scene) :
    (invocation.run scene).Quiet scene := by
  obtain ⟨options, command⟩ := invocation
  cases command with
  | controller command => exact absurd rfl (indoors command)
  | completions shell => exact ⟨rfl, .refl _⟩
  | config command =>
      refine quiet_configured fun config p => ⟨command.run_sent p options config scene, ?_⟩
      rw [ConfigCommand.run_files]
      exact .refl _
  | store command =>
      refine quiet_configured fun config p => ?_
      have opening := Store.lasts_of_open? scene.files (storeDirectory options config scene.home)
      rcases opened : Store.open? scene.files (storeDirectory options config scene.home) with
        ⟨files, cause | store⟩
      · rw [opened] at opening
        exact ⟨rfl, opening⟩
      · rw [opened] at opening
        rw [unconfirmed]
        obtain ⟨files, sent⟩ := command.run_unconfirmed p store { scene with files }
        exact ⟨sent, by rw [files]; exact opening⟩

theorem unconfirmed_indoors {invocation : Invocation} (unconfirmed : invocation.options.yes = false)
    (indoors : ∀ command, invocation.command ≠ .controller command) (scene : Scene) :
    Unconfirmed invocation scene where
  harmless := by
    rw [(quiet_run unconfirmed indoors scene).1]
    simp
  lasts := (quiet_run unconfirmed indoors scene).2
  refused := fun command _ _ same => absurd same (indoors _)
  cleaned := by
    obtain ⟨options, command⟩ := invocation
    rintro target config opened store ⟨⟩ loaded found
    have ran : Invocation.run ⟨options, .store (.clean target)⟩ scene =
        StoreCommand.run (.clean target) (presentation options config) options.yes store
          { scene with files := opened } := by
      simp only [Invocation.run, configured, loaded, found]
    rw [ran, unconfirmed, StoreCommand.run_clean]
    refine ⟨(StoreCommand.run_unconfirmed _ _ _ _).1, fun _ _ => Store.text_of_open? found, ?_⟩
    split
    · exact ⟨rfl, rfl⟩
    · rfl

/-- Whatever a command line other than for a request in the user's own words asks for, its run does
no harm unless it is told to go ahead. -/
theorem run_of_unconfirmed {environment : Environment} {arguments : List String}
    {invocation : Invocation} (read : Invocation.read environment arguments = .ok invocation)
    (unconfirmed : invocation.options.yes = false)
    (worded : ∀ raw, invocation.command ≠ .controller (.raw raw)) (scene : Scene) :
    Unconfirmed invocation scene := by
  have fits := limitsFit_of_read read
  obtain ⟨options, command⟩ := invocation
  cases command with
  | controller command =>
      exact unconfirmed_controller unconfirmed (fun raw same => worded raw (by rw [same])) fits scene
  | store | config | completions =>
      exact unconfirmed_indoors unconfirmed (fun _ same => nomatch same) scene

/-- A restart without `--yes`: the run logs in and out and asks to be confirmed. -/
theorem run_of_unconfirmed_sample :
    let arguments := ["-c", "http://[::1]", "-u", "u", "--password", "p", "ap", "restart", "aa:bb"]
    ∃ invocation, Invocation.read [] arguments = .ok invocation ∧
      invocation.options.yes = false ∧ Unconfirmed invocation (siteScene "7") ∧
      (invocation.run (siteScene "7")).attempts.map (·.path) = ["/api/login", "/api/logoff"] ∧
      (invocation.run (siteScene "7")).result = .error (.unconfirmed "ap restart") := by
  let invocation : Invocation :=
    { options := { controller := some "http://[::1]", username := some "u", password := some "p" }
      command := .controller (.accessPoints (.restart "aa:bb")) }
  have read : Invocation.read []
      ["-c", "http://[::1]", "-u", "u", "--password", "p", "ap", "restart", "aa:bb"] =
        .ok invocation := by decide +kernel
  exact ⟨invocation, read, rfl, run_of_unconfirmed read rfl (fun _ same => nomatch same) _,
    by decide +kernel, by decide +kernel⟩

end Console

end NetConsole
