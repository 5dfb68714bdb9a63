import NetConsole.Proofs.Client.Twins
import NetConsole.Proofs.Config.Unread
import NetConsole.Proofs.Console.Credentials
import NetConsole.Proofs.Console.Presentation
import NetConsole.Proofs.Store.Veiled

/-!
# Runs with different passwords

Two runs that have one password or another in the same place make the same requests but for the
body of the login, and apart from that nothing tells them apart: they end in the same way, print the
same and leave the same in the store. The one way for a password to get elsewhere is a file of
certificates that is the very file of the configuration.
-/

set_option autoImplicit false

namespace NetConsole.Console

open Stepwise Operation Step

/-! ## Visits -/

/-- Visits of clients that are alike but for what they did up to some point. -/
structure VisitTwins (before other : Past) (one two : Visit) : Prop where
  client : Client.Twins before other one.client two.client
  store : one.store = two.store
  output : one.output = two.output

section

variable {before other : Past}

theorem ask_twins {α : Type} {first second : Operation α} {one two : Visit}
    (operations : EndTogether (Client.Twins before other) first second one.client two.client)
    (store : one.store = two.store) (output : one.output = two.output) :
    EndTogether (VisitTwins before other) (ask first) (ask second) one two := by
  obtain ⟨result, afterOne, afterTwo, ranOne, ranTwo, twins⟩ := operations.exists_run
  unfold EndTogether
  rw [run_ask, run_ask, ranOne, ranTwo]
  exact ⟨rfl, twins, store, output⟩

theorem keepsTogether_twins (p : Presentation) : KeepsTogether (VisitTwins before other) p p where
  ask := fun composed one two twins =>
    ask_twins (Client.parallel_composed composed one.client two.client twins.client) twins.store
      twins.output
  keep := by
    intro α _ resource id records one two twins
    obtain ⟨result, after, kept⟩ := exists_run_keep resource id records two.store
    unfold EndTogether
    rw [kept one twins.store, kept two rfl]
    exact ⟨rfl, twins.client, rfl, twins.output⟩
  print := fun text one two twins =>
    ⟨rfl, twins.client, twins.store, congrArg (· ++ printed p (text p)) twins.output⟩

theorem parallel_writing_twins (request : Request) :
    Parallel (VisitTwins before other) (writing request) (writing request) := by
  intro one two twins
  obtain ⟨⟨bytes, outcome⟩, afterOne, afterTwo, wroteOne, wroteTwo, after⟩ :=
    Client.executeWriting_twins request twins.client
  have ranOne : (Client.executeWriting request).run one.client = _ := wroteOne
  have ranTwo : (Client.executeWriting request).run two.client = _ := wroteTwo
  unfold EndTogether
  rw [writing, run_bind, run_bind, run_get, run_get]
  dsimp only
  rw [ranOne, ranTwo, twins.store, twins.output]
  cases outcome with
  | error cause => exact ⟨rfl, after, rfl, rfl⟩
  | ok answer => exact ⟨rfl, after, rfl, rfl⟩

theorem RawCommand.parallel_twins (command : RawCommand) :
    Parallel (VisitTwins before other) command.visit command.visit := by
  rcases command.visit_cases with ⟨reason, same, -⟩ | ⟨request, -, same, -⟩
  · rw [same]
    exact parallel_throw (Failure.json reason)
  · rw [same]
    exact parallel_writing_twins request

end

/-- Visits with one password or another end in the same way, and leave visits that are alike but
for the login. -/
theorem visitController_twins {first second : Connection} (same : first.SameButPassword second)
    (command : ControllerCommand) (p : Presentation) (yes : Bool) (visit : Visit) :
    ∃ before other result one two,
      Past.Apart first.username first.password second.password visit.client.past before other ∧
      (visitController first command p yes).run visit = (result, one) ∧
      (visitController second command p yes).run visit = (result, two) ∧
      VisitTwins before other one two := by
  obtain ⟨password, rfl⟩ := same.exists_eq
  obtain ⟨before, other, apart, entered⟩ :=
    Client.login_twins first.username first.password password visit.client
  have leaving : Parallel (VisitTwins before other) (ask Client.logout) (ask Client.logout) :=
    fun one two twins =>
      ask_twins (Client.parallel_logout one.client two.client twins.client) twins.store twins.output
  have inside : Parallel (VisitTwins before other) (command.visit p yes) (command.visit p yes) :=
    command.parallel_visit (keepsTogether_twins p) yes fun worded _ => worded.parallel_twins
  have visited := @parallel_visitController (VisitTwins before other) p p first
    { first with password } command yes visit visit (ask_twins entered rfl rfl) inside leaving
  obtain ⟨result, one, two, ranOne, ranTwo, twins⟩ := visited
  exact ⟨before, other, result, one, two, apart, ranOne, ranTwo, twins⟩

/-! ## Runs -/

/-- Outcomes that nothing tells apart but texts in some files and the password in the body of the
login. -/
structure Outcome.SameButPassword (hidden : Path → Bool) (one two : Outcome) : Prop where
  result : one.result = two.result
  output : one.output = two.output
  notices : one.notices = two.notices
  files : one.files.veil hidden = two.files.veil hidden
  requests : Past.SameButPassword ⟨one.attempts, one.sent⟩ ⟨two.attempts, two.sent⟩

/-- Two runs under configurations that have passwords in the same places, with files that differ in
texts that are hidden. -/
structure Disguised (hidden : Path → Bool) (one : Options) (first : Config) (scene : Scene)
    (two : Options) (second : Config) (other : Scene) : Prop where
  places : SamePlaces one first scene.environment two second other.environment
  home : scene.home = other.home
  secrets : scene.secrets = other.secrets
  wire : scene.wire = other.wire
  files : scene.files.veil hidden = other.files.veil hidden
  checked : ∀ wanted, connection one first scene.environment scene.secrets scene.home = .ok wanted →
    wanted.transport.check scene.files = wanted.transport.check other.files

section

variable {hidden : Path → Bool} {one two : Options} {first second : Config} {scene other : Scene}

theorem openStore_veil (shown : Store.Shown hidden) (options : Options) (config : Config)
    (scene : Scene) (files : Files) :
    openStore options config { scene with files := files.veil hidden } =
      ((openStore options config { scene with files }).1.veil hidden,
        (openStore options config { scene with files }).2) := by
  unfold openStore
  dsimp only
  split
  · rw [Store.open?_veil shown]
  · rfl

theorem flushStore_veil (shown : Store.Shown hidden) (store : Option Store) (files : Files) :
    flushStore store (files.veil hidden) =
      ((flushStore store files).1.veil hidden, (flushStore store files).2) := by
  cases store with
  | none => rfl
  | some store => exact Store.flush_veil shown store files

theorem Disguised.exists_openStore (same : Disguised hidden one first scene two second other)
    (shown : Store.Shown hidden) : ∃ opened filesOne filesTwo,
      openStore one first scene = (filesOne, opened) ∧
      openStore two second other = (filesTwo, opened) ∧
      filesOne.veil hidden = filesTwo.veil hidden := by
  have opens : openStore two second other =
      openStore one first { scene with files := other.files } := by
    unfold openStore
    dsimp only
    rw [same.places.keepsRecords, same.places.storeDirectory, same.home]
  rw [opens]
  exact @Files.exists_of_veil hidden _ (fun files => openStore one first { scene with files })
    (openStore_veil shown one first scene) _ _ same.files

theorem Visit.sameButPassword_outcome (shown : Store.Shown hidden) {before other : Past}
    {username x y : String} {start : Past} (apart : Past.Apart username x y start before other)
    {one two : Visit} (twins : VisitTwins before other one two) {files own : Files}
    (same : files.veil hidden = own.veil hidden) (result : Except Failure Unit) :
    (one.outcome files result).SameButPassword hidden (two.outcome own result) := by
  have requests := twins.client.sameButPassword apart
  cases result with
  | error failure => exact ⟨rfl, twins.output, rfl, same, requests⟩
  | ok done =>
      obtain ⟨written, filesOne, filesTwo, flushedOne, flushedTwo, after⟩ :=
        Files.exists_of_veil (flushStore_veil shown one.store) same
      rw [twins.store] at flushedTwo
      unfold Visit.outcome
      dsimp only
      rw [flushedOne, flushedTwo]
      exact ⟨rfl, twins.output, rfl, after, requests⟩

theorem ControllerCommand.run_disguised (shown : Store.Shown hidden)
    (same : Disguised hidden one first scene two second other) (command : ControllerCommand)
    (p : Presentation) :
    (command.run p one first scene).SameButPassword hidden
      (command.run p two second other) := by
  have matched := same.places.connection scene.secrets scene.home
  unfold ControllerCommand.run
  rw [← same.home, ← same.secrets]
  cases resolved : connection one first scene.environment scene.secrets scene.home with
  | error failure =>
      rw [resolved] at matched
      generalize connection two second other.environment scene.secrets scene.home = own at matched ⊢
      cases matched
      exact ⟨rfl, rfl, rfl, same.files, .same _⟩
  | ok wanted =>
      rw [resolved] at matched
      generalize connection two second other.environment scene.secrets scene.home = own at matched ⊢
      cases matched with
      | @ok _ own alike =>
          dsimp only
          rw [← alike.client (same.checked wanted resolved), ← same.wire]
          cases built : wanted.client scene.files scene.wire with
          | error cause => exact ⟨rfl, rfl, rfl, same.files, .same _⟩
          | ok client =>
              obtain ⟨opened, filesOne, filesTwo, openedOne, openedTwo, files⟩ :=
                same.exists_openStore shown
              dsimp only
              rw [openedOne, openedTwo]
              cases opened with
              | error cause => exact ⟨rfl, rfl, rfl, files, .same _⟩
              | ok store =>
                  obtain ⟨before, after, result, visitOne, visitTwo, apart, ranOne, ranTwo,
                    twins⟩ := visitController_twins alike command p one.yes ⟨client, store, []⟩
                  have yes : two.yes = one.yes := by
                    obtain ⟨password, rfl, -⟩ := same.places.options.exists_eq
                    rfl
                  have outcomes := Visit.sameButPassword_outcome shown apart twins files result
                  dsimp only
                  rw [yes, ranOne, ranTwo]
                  cases result with
                  | error failure => exact outcomes
                  | ok done => exact outcomes

end

/-! ## Invocations -/

/-- The file of the configuration. -/
def configFile (home : String) (path : Path) : Bool := path = Path.ofText (Config.filePath home)

/-- Two runs that have one password or another in the same place, and nothing else to tell them
apart. Hidden are the texts that the passwords may stand in. -/
inductive PasswordsApart : (Path → Bool) → Options → Scene → Options → Scene → Prop where
  /-- as an option, or in the variable that stands in for it -/
  | given {one two : Options} {scene : Scene} {environment : Environment} :
      one.SameButPassword two → scene.environment.SameBut "UNIFIED_PASSWORD" environment →
      PasswordsApart (fun _ => false) one scene two { scene with environment }
  /-- in a profile; if the run reads a file of certificates, then it is the same in both -/
  | configured {options : Options} {scene : Scene} {files : Files} {environment : Environment}
      {first second : Config} :
      Config.load scene.files scene.environment scene.home = .ok first →
      Config.load files environment scene.home = .ok second → first.SameButPasswords second →
      (∀ name ∈ ["UNIFIED_USERNAME", "UNIFIED_PASSWORD"],
        scene.environment.find? name = environment.find? name) →
      scene.files.veil (configFile scene.home) = files.veil (configFile scene.home) →
      (∀ wanted path,
        connection options first scene.environment scene.secrets scene.home = .ok wanted →
        wanted.transport.trust = .authority path →
        scene.files.read? (Path.ofText path) = files.read? (Path.ofText path)) →
      PasswordsApart (configFile scene.home) options scene options
        { scene with files, environment }

theorem run_of_loaded {hidden : Path → Bool} {one two : Options} {first second : Config}
    {scene other : Scene} (shown : Store.Shown hidden)
    (same : Disguised hidden one first scene two second other)
    (loaded : Config.load scene.files scene.environment scene.home = .ok first)
    (also : Config.load other.files other.environment other.home = .ok second)
    (command : ControllerCommand) :
    (Invocation.run ⟨one, .controller command⟩ scene).SameButPassword hidden
      (Invocation.run ⟨two, .controller command⟩ other) := by
  rw [Invocation.run_eq_runAs loaded, Invocation.run_eq_runAs also, same.places.presentation]
  exact ControllerCommand.run_disguised shown same command _

theorem PasswordsApart.run_sameButPassword {hidden : Path → Bool} {one two : Options}
    {scene other : Scene} (apart : PasswordsApart hidden one scene two other)
    (command : ControllerCommand) :
    (Invocation.run ⟨one, .controller command⟩ scene).SameButPassword hidden
      (Invocation.run ⟨two, .controller command⟩ other) := by
  cases apart with
  | @given _ _ _ environment options values =>
      have same := Config.load_sameBut Config.unread_password values scene.files scene.home
      have standIns : SameStandIns scene.environment environment :=
        ⟨values.find? (by decide), values.isSome_find? _⟩
      have noScript : ∀ shell, Command.controller command ≠ .completions shell := nofun
      cases loaded : Config.load scene.files scene.environment scene.home with
      | error cause =>
          rw [Invocation.run_eq_failed noScript loaded,
            Invocation.run_eq_failed noScript (same.symm.trans loaded)]
          exact ⟨rfl, rfl, rfl, rfl, .same _⟩
      | ok config =>
          have disguised : Disguised (fun _ => false) one config scene two config
              { scene with environment } :=
            ⟨⟨options, .refl config, standIns⟩, rfl, rfl, rfl, rfl, fun _ _ => rfl⟩
          exact run_of_loaded Store.shown_none disguised loaded (same.symm.trans loaded) command
  | @configured _ _ files environment first second loaded also configs values veiled
      certificates =>
      have standIns : SameStandIns scene.environment environment :=
        ⟨values _ (by simp), congrArg _ (values _ (by simp))⟩
      have disguised : Disguised (configFile scene.home) one first scene one second
          { scene with files, environment } :=
        ⟨⟨.refl one, configs, standIns⟩, rfl, rfl, rfl, veiled, fun wanted resolved =>
          Transport.check_eq fun path trusted => certificates wanted path resolved trusted⟩
      exact run_of_loaded (Store.shown_config scene.home) disguised loaded also command

/-- The password of a run gets nowhere but into the body of the login. Where it stands in the
configuration, this is so if the certificates of the run stand elsewhere. -/
theorem run_passwordsApart {hidden : Path → Bool} {one two : Options} {scene other : Scene}
    (apart : PasswordsApart hidden one scene two other) (command : ControllerCommand) :
    (Invocation.run ⟨one, .controller command⟩ scene).SameButPassword hidden
        (Invocation.run ⟨two, .controller command⟩ other) ∧
      ∀ path, hidden path = false →
        (Invocation.run ⟨one, .controller command⟩ scene).files.at? path =
          (Invocation.run ⟨two, .controller command⟩ other).files.at? path := by
  have same := apart.run_sameButPassword command
  refine ⟨same, fun path shown => ?_⟩
  rw [← Files.at?_veil_of_shown _ shown, same.files, Files.at?_veil_of_shown _ shown]

/-- A scene with a profile that has a password, and a file that certificates are read from. -/
def labScene (certificates password : String) : Scene where
  home := "/home"
  environment := []
  files := ⟨[([], .directory), (["home"], .directory), (["home", "lab.pem"], .text ""),
    (["home", ".config"], .directory), (["home", ".config", "unified"], .directory),
    (["home", ".config", "unified", "config.toml"],
      .text ("[profiles.default]\ncontroller = \"http://[::1]\"\nusername = \"u\"\npassword = " ++
        password ++ "\nca_cert = \"" ++ certificates ++ "\"\n"))]⟩
  wire :=
    { reaches := fun _ => true
      replies :=
        [.answer ⟨200, [("set-cookie", "unifises=s"), ("set-cookie", "csrf_token=t")], [], true, []⟩,
          .answer ⟨200, [], Text.bytes "\x7b\"data\":[]\x7d", true, []⟩]
      sent := [] }

/-- The configuration of that scene. -/
def labConfig (certificates password : String) : Config :=
  ⟨some "default", {}, [("default",
    { controller := "http://[::1]", username := some "u", password := some password
      caCert := some certificates })]⟩

theorem labConfig_sameButPasswords (certificates one two : String) :
    (labConfig certificates one).SameButPasswords (labConfig certificates two) :=
  ⟨rfl, rfl, .cons ⟨rfl, rfl, rfl⟩ .nil⟩

theorem veil_labScene (certificates one two : String) :
    (labScene certificates one).files.veil (configFile "/home") =
      (labScene certificates two).files.veil (configFile "/home") := by
  have here : configFile "/home" ["home", ".config", "unified", "config.toml"] = true := by
    decide +kernel
  simp only [labScene, Files.veil, List.map_cons, List.map_nil, Entry.veiled, here, if_true]

theorem labScene_apart {certificates one two x y : String}
    (first : Config.load (labScene certificates one).files [] "/home" =
      .ok (labConfig certificates x))
    (second : Config.load (labScene certificates two).files [] "/home" =
      .ok (labConfig certificates y))
    (same : ∀ wanted path, connection {} (labConfig certificates x) [] {} "/home" = .ok wanted →
      wanted.transport.trust = .authority path →
      (labScene certificates one).files.read? (Path.ofText path) =
        (labScene certificates two).files.read? (Path.ofText path)) :
    PasswordsApart (configFile "/home") {} (labScene certificates one) {}
      (labScene certificates two) :=
  @PasswordsApart.configured {} (labScene certificates one) (labScene certificates two).files []
    _ _ first second (labConfig_sameButPasswords _ _ _) (fun _ _ => rfl) (veil_labScene _ _ _) same

theorem run_passwordsApart_sample :
    let one := labScene "/home/lab.pem" "\"hunter2\""
    let two := labScene "/home/lab.pem" "'\"'"
    let list : ControllerCommand := .alarms (.list ⟨0, 0⟩)
    PasswordsApart (configFile "/home") {} one {} two ∧
      (Invocation.run ⟨{}, .controller list⟩ one).SameButPassword (configFile "/home")
        (Invocation.run ⟨{}, .controller list⟩ two) ∧
      (Invocation.run ⟨{}, .controller list⟩ one).sent.map (·.body) =
        [Text.bytes "\x7b\"username\":\"u\",\"password\":\"hunter2\"\x7d", [], []] ∧
      (Invocation.run ⟨{}, .controller list⟩ two).sent.map (·.body) =
        [Text.bytes "\x7b\"username\":\"u\",\"password\":\"\\\"\"\x7d", [], []] := by
  intro one two list
  have first : Config.load one.files one.environment one.home =
      .ok (labConfig "/home/lab.pem" "hunter2") := by decide +kernel
  have second : Config.load two.files two.environment two.home =
      .ok (labConfig "/home/lab.pem" "\"") := by decide +kernel
  have certificates : ∀ wanted path,
      connection {} (labConfig "/home/lab.pem" "hunter2") [] {} "/home" = .ok wanted →
      wanted.transport.trust = .authority path →
      one.files.read? (Path.ofText path) = two.files.read? (Path.ofText path) := by
    intro wanted path resolved trusted
    have made : (connection {} (labConfig "/home/lab.pem" "hunter2") [] {} "/home").map
        (·.transport.trust) = .ok (.authority "/home/lab.pem") := by decide +kernel
    rw [resolved] at made
    obtain rfl : path = "/home/lab.pem" := by
      cases trusted.symm.trans (Except.ok.inj made)
      rfl
    decide +kernel
  have apart := labScene_apart first second certificates
  refine ⟨apart, (run_passwordsApart apart list).1, ?_, ?_⟩
  · rw [Invocation.run_eq_runAs first]
    decide +kernel
  · rw [Invocation.run_eq_runAs second]
    decide +kernel

/-- A run that reads its certificates from the file of its configuration fails if the password in it
looks like a certificate that breaks off. -/
theorem run_of_certificates_in_configuration :
    let path := "/home/.config/unified/config.toml"
    let one := labScene path "\"hunter2\""
    let two := labScene path "'''\n-----BEGIN CERTIFICATE-----\n'''"
    let list : Invocation := ⟨{}, .controller (.alarms (.list ⟨0, 0⟩))⟩
    ∃ first second,
      Config.load one.files one.environment one.home = .ok first ∧
      Config.load two.files two.environment two.home = .ok second ∧
      first.SameButPasswords second ∧ two = { one with files := two.files } ∧
      one.files.veil (configFile one.home) = two.files.veil (configFile one.home) ∧
      (list.run one).result = .ok () ∧
      (list.run two).result = .error (.tls "failed to build HTTP client") := by
  intro path one two list
  have first : Config.load one.files one.environment one.home =
      .ok (labConfig path "hunter2") := by decide +kernel
  have second : Config.load two.files two.environment two.home =
      .ok (labConfig path "-----BEGIN CERTIFICATE-----\n") := by decide +kernel
  refine ⟨_, _, first, second, labConfig_sameButPasswords _ _ _, rfl,
    veil_labScene _ _ _, ?_, ?_⟩
  · rw [Invocation.run_eq_runAs first]
    decide +kernel
  · rw [Invocation.run_eq_runAs second]
    decide +kernel

end NetConsole.Console
