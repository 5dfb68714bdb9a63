import NetConsole.Proofs.Console.Mirror
import NetConsole.Proofs.Console.Parallel

/-!
# How output looks

The format, the colour mode and whether there is any output make no difference to what a run does:
it sends the same requests, leaves the same files and ends in the same way. Where no output is
wanted none is made, but for the body of an answer to a request that the user words himself.
-/

set_option autoImplicit false

namespace NetConsole.Console

open Stepwise Operation Step

/-! ## Visits -/

/-- Visits that differ in what was printed at most. -/
def AlikeButOutput (one two : Visit) : Prop := one.client = two.client ∧ one.store = two.store

theorem keepsTogether_alikeButOutput (p q : Presentation) :
    KeepsTogether AlikeButOutput p q where
  ask := by
    intro α operation _ one two start
    unfold EndTogether
    rw [run_ask, run_ask, start.1]
    exact ⟨rfl, rfl, start.2⟩
  keep := by
    intro α _ resource id records one two start
    obtain ⟨result, after, kept⟩ := exists_run_keep resource id records two.store
    unfold EndTogether
    rw [kept one start.2, kept two rfl]
    exact ⟨rfl, start.1, rfl⟩
  print := fun _ _ _ start => ⟨rfl, start⟩

theorem parallel_writing_alikeButOutput (request : Request) :
    Parallel AlikeButOutput (writing request) (writing request) := by
  intro one two start
  unfold EndTogether
  rw [writing, run_bind, run_bind, run_get, run_get]
  dsimp only
  rw [start.1]
  rcases (Client.executeWriting request).run two.client with ⟨⟨bytes, outcome⟩, after⟩
  cases outcome with
  | error cause => exact ⟨rfl, rfl, start.2⟩
  | ok answer => exact ⟨rfl, rfl, start.2⟩

theorem RawCommand.parallel_alikeButOutput (command : RawCommand) :
    Parallel AlikeButOutput command.visit command.visit := by
  rcases command.visit_cases with ⟨reason, same, -⟩ | ⟨request, -, same, -⟩
  · rw [same]
    exact parallel_throw (Failure.json reason)
  · rw [same]
    exact parallel_writing_alikeButOutput request

/-- A visit that has printed nothing. -/
def Silent (one two : Visit) : Prop := one = two ∧ one.output = []

theorem keepsTogether_silent {p : Presentation} (quiet : p.quiet = true) :
    KeepsTogether Silent p p where
  ask := by
    intro α operation _ one two start
    obtain ⟨rfl, silent⟩ := start
    exact ⟨rfl, rfl, silent⟩
  keep := by
    intro α _ resource id records one two start
    obtain ⟨rfl, silent⟩ := start
    obtain ⟨result, after, kept⟩ := exists_run_keep resource id records one.store
    unfold EndTogether
    rw [kept one rfl]
    exact ⟨rfl, rfl, silent⟩
  print := by
    intro text one two start
    obtain ⟨rfl, silent⟩ := start
    have nothing : printed p (text p) = [] := if_pos (.inl quiet)
    refine ⟨rfl, rfl, ?_⟩
    change one.output ++ printed p (text p) = []
    rw [silent, nothing]
    rfl

/-! ## Runs -/

/-- Outcomes that differ in what was printed or told at most. -/
structure Outcome.SameDeeds (one two : Outcome) : Prop where
  result : one.result = two.result
  files : one.files = two.files
  attempts : one.attempts = two.attempts
  sent : one.sent = two.sent

theorem Visit.sameDeeds_outcome (files : Files) (result : Except Failure Unit) {one two : Visit}
    (alike : AlikeButOutput one two) :
    (one.outcome files result).SameDeeds (two.outcome files result) := by
  obtain ⟨client, store, output⟩ := one
  obtain ⟨_, _, other⟩ := two
  obtain ⟨sameClient, sameStore⟩ := alike
  cases sameClient
  cases sameStore
  cases result with
  | error failure => exact ⟨rfl, rfl, rfl, rfl⟩
  | ok done => exact ⟨rfl, rfl, rfl, rfl⟩

/-- What is printed on a visit makes no difference to the visit. -/
theorem visitController_alikeButOutput (wanted : Connection) (command : ControllerCommand)
    (p q : Presentation) (yes : Bool) (visit : Visit) :
    ∃ result afterOne afterTwo,
      (visitController wanted command p yes).run visit = (result, afterOne) ∧
        (visitController wanted command q yes).run visit = (result, afterTwo) ∧
        AlikeButOutput afterOne afterTwo := by
  have keeps := keepsTogether_alikeButOutput p q
  refine parallel_visitController ⟨rfl, rfl, rfl⟩
    (command.parallel_visit keeps yes fun worded _ => worded.parallel_alikeButOutput) ?_
  intro one two start
  unfold EndTogether
  rw [run_ask, run_ask, start.1]
  exact ⟨rfl, rfl, start.2⟩

theorem visitController_silent {p : Presentation} (quiet : p.quiet = true) (wanted : Connection)
    {command : ControllerCommand} (noRaw : ∀ worded, command ≠ .raw worded) (yes : Bool)
    (client : Client) (store : Option Store) :
    ((visitController wanted command p yes).run ⟨client, store, []⟩).2.output = [] := by
  have keeps := keepsTogether_silent quiet
  have silent : ∃ result one two,
      (visitController wanted command p yes).run ⟨client, store, []⟩ = (result, one) ∧
        (visitController wanted command p yes).run ⟨client, store, []⟩ = (result, two) ∧
        Silent one two := by
    refine parallel_visitController ⟨rfl, rfl, rfl⟩
      (command.parallel_visit keeps yes fun worded same => absurd same (noRaw worded)) ?_
    intro one two start
    obtain ⟨rfl, silent⟩ := start
    exact ⟨rfl, rfl, silent⟩
  obtain ⟨result, one, two, ran, -, -, silent⟩ := silent
  rw [ran]
  exact silent

theorem ControllerCommand.run_sameDeeds (command : ControllerCommand) (p q : Presentation)
    (options : Options) (config : Config) (scene : Scene) :
    (command.run p options config scene).SameDeeds (command.run q options config scene) := by
  unfold ControllerCommand.run
  cases connection options config scene.environment scene.secrets scene.home with
  | error failure => exact ⟨rfl, rfl, rfl, rfl⟩
  | ok wanted =>
      dsimp only
      cases wanted.client scene.files scene.wire with
      | error cause => exact ⟨rfl, rfl, rfl, rfl⟩
      | ok client =>
          dsimp only
          rcases openStore options config scene with ⟨files, cause | store⟩
          · exact ⟨rfl, rfl, rfl, rfl⟩
          · obtain ⟨result, afterOne, afterTwo, ranOne, ranTwo, alike⟩ :=
              visitController_alikeButOutput wanted command p q options.yes ⟨client, store, []⟩
            dsimp only
            rw [ranOne, ranTwo]
            have deeds := Visit.sameDeeds_outcome files result alike
            cases result with
            | error failure => exact deeds
            | ok done => exact deeds

theorem ControllerCommand.run_silent {p : Presentation} (quiet : p.quiet = true)
    {command : ControllerCommand} (noRaw : ∀ worded, command ≠ .raw worded) (options : Options)
    (config : Config) (scene : Scene) : (command.run p options config scene).output = [] := by
  have runs := command.runs p options config scene
  generalize command.run p options config scene = outcome at runs
  cases runs with
  | unresolved | unbuilt | unopened => rfl
  | @visited wanted session files store result visit ready ran =>
      have silent := visitController_silent quiet wanted noRaw options.yes
        (.fresh session scene.wire) store
      rw [ran] at silent
      cases result with
      | error failure => exact silent
      | ok done => exact silent

theorem StoreCommand.run_sameDeeds (command : StoreCommand) (p q : Presentation) (yes : Bool)
    (store : Store) (scene : Scene) :
    (command.run p yes store scene).SameDeeds (command.run q yes store scene) := by
  unfold StoreCommand.run
  cases command with
  | list => exact ⟨rfl, rfl, rfl, rfl⟩
  | «show» name =>
      dsimp only
      cases store.documents name <;> exact ⟨rfl, rfl, rfl, rfl⟩
  | clean target =>
      dsimp only
      split
      · exact ⟨rfl, rfl, rfl, rfl⟩
      · split
        · exact ⟨rfl, rfl, rfl, rfl⟩
        · rcases dropCollections store scene.files ((targets target).filter store.contains)
            with ⟨files, cause | done⟩ <;> exact ⟨rfl, rfl, rfl, rfl⟩

theorem printed_quiet {p : Presentation} (quiet : p.quiet = true) (text : String) :
    printed p text = [] := if_pos (.inl quiet)

theorem StoreCommand.run_silent {p : Presentation} (quiet : p.quiet = true)
    (command : StoreCommand) (yes : Bool) (store : Store) (scene : Scene) :
    (command.run p yes store scene).output = [] := by
  unfold StoreCommand.run
  cases command with
  | list => exact printed_quiet quiet _
  | «show» name =>
      dsimp only
      cases store.documents name with
      | error cause => rfl
      | ok documents => exact printed_quiet quiet _
  | clean target =>
      dsimp only
      split
      · rfl
      · split
        · rfl
        · rcases dropCollections store scene.files ((targets target).filter store.contains)
            with ⟨files, cause | done⟩ <;> rfl

theorem ConfigCommand.run_sameDeeds (command : ConfigCommand) (p q : Presentation)
    (options : Options) (config : Config) (scene : Scene) :
    (command.run p options config scene).SameDeeds (command.run q options config scene) := by
  unfold ConfigCommand.run
  cases command with
  | init | «show» => exact ⟨rfl, rfl, rfl, rfl⟩
  | setPassword =>
      dsimp only
      split <;> exact ⟨rfl, rfl, rfl, rfl⟩

theorem ConfigCommand.run_silent {p : Presentation} (quiet : p.quiet = true)
    (command : ConfigCommand) (options : Options) (config : Config) (scene : Scene) :
    (command.run p options config scene).output = [] := by
  unfold ConfigCommand.run
  cases command with
  | init => rfl
  | «show» => exact printed_quiet quiet _
  | setPassword =>
      dsimp only
      split <;> rfl

/-! ## Invocations -/

/-- A run of a command under a configuration, with output that looks in some way. -/
def Command.runAs (command : Command) (p : Presentation) (options : Options) (config : Config)
    (scene : Scene) : Outcome :=
  match command with
  | .completions _ => { result := .ok (), files := scene.files }
  | .config command => command.run p options config scene
  | .controller command => command.run p options config scene
  | .store command =>
      match Store.open? scene.files (storeDirectory options config scene.home) with
      | (files, .error cause) => { result := .error (.ofStore cause), files }
      | (files, .ok opened) => command.run p options.yes opened { scene with files }

theorem Command.runAs_sameDeeds (command : Command) (p q : Presentation) (options : Options)
    (config : Config) (scene : Scene) :
    (command.runAs p options config scene).SameDeeds (command.runAs q options config scene) := by
  cases command with
  | completions shell => exact ⟨rfl, rfl, rfl, rfl⟩
  | config command => exact command.run_sameDeeds p q options config scene
  | controller command => exact command.run_sameDeeds p q options config scene
  | store command =>
      unfold Command.runAs
      dsimp only
      rcases Store.open? scene.files (storeDirectory options config scene.home)
        with ⟨files, cause | opened⟩
      · exact ⟨rfl, rfl, rfl, rfl⟩
      · exact command.run_sameDeeds p q options.yes opened _

theorem Command.runAs_silent {p : Presentation} (quiet : p.quiet = true) {command : Command}
    (noRaw : ∀ worded, command ≠ .controller (.raw worded)) (options : Options) (config : Config)
    (scene : Scene) : (command.runAs p options config scene).output = [] := by
  cases command with
  | completions shell => rfl
  | config command => exact command.run_silent quiet options config scene
  | controller command =>
      have noRequest : ∀ worded, command ≠ .raw worded := fun worded same =>
        noRaw worded (congrArg Command.controller same)
      exact command.run_silent quiet noRequest options config scene
  | store command =>
      unfold Command.runAs
      dsimp only
      rcases Store.open? scene.files (storeDirectory options config scene.home)
        with ⟨files, cause | opened⟩
      · rfl
      · exact command.run_silent quiet options.yes opened _

theorem Invocation.run_eq_runAs {options : Options} {command : Command} {scene : Scene}
    {config : Config}
    (loaded : Config.load scene.files scene.environment scene.home = .ok config) :
    Invocation.run ⟨options, command⟩ scene =
      command.runAs (presentation options config) options config scene := by
  cases command with
  | completions shell => rfl
  | config command | controller command =>
      simp only [Invocation.run, configured, loaded]
      rfl
  | store command =>
      rcases opened : Store.open? scene.files (storeDirectory options config scene.home)
        with ⟨files, cause | store⟩
      · simp only [Invocation.run, configured, loaded, Command.runAs, opened]
      · simp only [Invocation.run, configured, loaded, Command.runAs, opened]

theorem Invocation.run_eq_failed {options : Options} {command : Command} {scene : Scene}
    {cause : Config.Error} (noScript : ∀ shell, command ≠ .completions shell)
    (failed : Config.load scene.files scene.environment scene.home = .error cause) :
    Invocation.run ⟨options, command⟩ scene = scene.failed (.config cause) := by
  cases command with
  | completions shell => exact absurd rfl (noScript shell)
  | config command | controller command | store command =>
      simp only [Invocation.run, configured, failed]

/-- Options with another format, another colour mode, and output wanted or not. -/
def Options.showing (options : Options) (output : Option Format) (color : Option ColorMode)
    (quiet : Bool) : Options :=
  { options with output, color, quiet }

theorem Command.runAs_showing (command : Command) (p : Presentation) (options : Options)
    (config : Config) (scene : Scene) (output : Option Format) (color : Option ColorMode)
    (quiet : Bool) : command.runAs p (options.showing output color quiet) config scene =
      command.runAs p options config scene := by
  cases command <;> rfl

/-- The format, the colour mode and whether output is wanted have no part in what a run does. A run
that no output is wanted of prints nothing, unless the user words its request himself. -/
theorem run_showing {command : Command} (noScript : ∀ shell, command ≠ .completions shell)
    (options : Options) (scene : Scene) (output : Option Format) (color : Option ColorMode)
    (quiet : Bool) :
    (Invocation.run ⟨options, command⟩ scene).SameDeeds
        (Invocation.run ⟨options.showing output color quiet, command⟩ scene) ∧
      ((∀ worded, command ≠ .controller (.raw worded)) →
        (Invocation.run ⟨options.showing output color true, command⟩ scene).output = []) := by
  cases loaded : Config.load scene.files scene.environment scene.home with
  | error cause =>
      simp only [Invocation.run_eq_failed noScript loaded]
      exact ⟨⟨rfl, rfl, rfl, rfl⟩, fun _ => rfl⟩
  | ok config =>
      simp only [Invocation.run_eq_runAs loaded, Command.runAs_showing]
      exact ⟨command.runAs_sameDeeds _ _ options config scene,
        fun noRaw => Command.runAs_silent rfl noRaw options config scene⟩

/-- A run that lists sites, keeps them and prints them in two ways, or not at all. -/
theorem run_showing_sample :
    let scene := siteScene "7"
    let options := siteListing.options
    let shown := Invocation.run ⟨options.showing (some .yaml) (some .always) false,
      siteListing.command⟩ scene
    let quiet := Invocation.run ⟨options.showing none none true, siteListing.command⟩ scene
    (siteListing.run scene).SameDeeds shown ∧ (siteListing.run scene).SameDeeds quiet ∧
      (siteListing.run scene).sent.length = 3 ∧ quiet.output = [] := by
  intro scene options shown quiet
  have noScript : ∀ shell, siteListing.command ≠ .completions shell := fun _ => nofun
  have noRaw : ∀ worded, siteListing.command ≠ .controller (.raw worded) := fun _ => nofun
  have same := (run_showing noScript options scene (some .yaml) (some .always) false).1
  obtain ⟨deeds, silent⟩ := run_showing noScript options scene none none true
  exact ⟨same, deeds, by decide +kernel, silent noRaw⟩

end NetConsole.Console
