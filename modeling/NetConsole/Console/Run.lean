import NetConsole.Console.Invocation
import NetConsole.Console.Visit
import NetConsole.Store.Disk

/-!
# Runs of the program

A run is a function of an invocation and of the scene it is made in. Its outcome is all that can be
told of it afterwards: how it ended, what was printed, the files, and the requests that went out.
-/

set_option autoImplicit false

namespace NetConsole.Console

/-- What a run finds: the path of the home directory, the environment, the files, the wire to the
controllers, and the keyring. There is no terminal, so the user cannot be asked for anything. -/
structure Scene where
  home : String
  environment : Environment
  files : Files
  wire : Wire
  keyring : Config.Keyring := fun _ => none
  /-- the order of names in which this run comes across profiles where it does not sort them -/
  order : List String := []

/-- What a run leaves: how it ended, what it printed, what it told the user, the files, the requests
that it tried to make, and those of them that went out. -/
structure Outcome where
  result : Except Failure Unit
  output : List UInt8 := []
  notices : String := ""
  files : Files
  attempts : List Request := []
  sent : List Sent := []

namespace Scene

/-- The outcome of a run that fails and leaves the files of its scene. -/
def failed (scene : Scene) (failure : Failure) : Outcome :=
  { result := .error failure, files := scene.files }

/-- The outcome of a run that prints a text and leaves the files of its scene. -/
def shown (scene : Scene) (p : Presentation) (text : String) : Outcome :=
  { result := .ok (), output := printed p text, files := scene.files }

/-- Where a run looks for passwords. -/
def secrets (scene : Scene) : Secrets := { keyring := scene.keyring }

end Scene

/-! ## The store -/

/-- The collections with the numbers of their documents. -/
def collectionSizes (store : Store) : List (String × Nat) :=
  store.collections.map fun (name, collection) => (name, collection.size)

/-- The names of the collections that are cleaned. -/
def targets (target : Option Resource) : List String :=
  match target with
  | none => Resource.every.map Resource.collection
  | some resource => [resource.collection]

/-- Drops collections and writes what is left. -/
def dropCollections (store : Store) (files : Files) (names : List String) :
    Files × Except Store.Error Unit :=
  match store.dropAll files names with
  | (store, files, .ok ()) => store.flush files
  | (_, files, .error cause) => (files, .error cause)

/-- A command for a store that is open. Cleaning has to be confirmed if there is something to
clean. -/
def StoreCommand.run (command : StoreCommand) (p : Presentation) (yes : Bool) (store : Store)
    (scene : Scene) : Outcome :=
  match command with
  | .list => scene.shown p (collectionListing.text p.format (collectionSizes store))
  | .show name =>
      match store.documents name with
      | .ok documents => scene.shown p (documentListing.text p.format documents)
      | .error cause => scene.failed (.ofStore cause)
  | .clean target =>
      let names := (targets target).filter store.contains
      if names.isEmpty then { result := .ok (), files := scene.files }
      else if !yes then scene.failed (.unconfirmed "db clean")
      else
        let (files, dropped) := dropCollections store scene.files names
        match dropped with
        | .error cause => { result := .error (.ofStore cause), files }
        | .ok () =>
            { result := .ok ()
              notices := if p.quiet then "" else "Dropped " ++ ", ".intercalate names ++ "\n"
              files }

/-! ## The configuration -/

/-- What comes of asking the user where there is no terminal. -/
def noTerminal : Failure := .validation "interactive" "prompt failed: IO error: not a terminal"

/-- What the wizard says before it asks anything. -/
def wizardGreeting (home : String) : String :=
  "unified configuration wizard\n   Config path: " ++ Config.filePath home ++ "\n\n"

/-- A command for the configuration. Passwords are shown masked; whatever has to ask the user
fails. -/
def ConfigCommand.run (command : ConfigCommand) (p : Presentation) (options : Options)
    (config : Config) (scene : Scene) : Outcome :=
  match command with
  | .init => { scene.failed noTerminal with notices := wizardGreeting scene.home }
  | .show => scene.shown p ((configSheet scene.order).text p.format (masked config))
  | .setPassword =>
      let name := profileName options config
      if (config.profile? name).isSome then scene.failed noTerminal
      else scene.failed (.profileNotFound name config.profileNames)

/-! ## Controllers -/

/-- The store that records are kept in, if they are kept. -/
def openStore (options : Options) (config : Config) (scene : Scene) :
    Files × Except Store.Error (Option Store) :=
  if keepsRecords options config then
    let (files, opened) := Store.open? scene.files (storeDirectory options config scene.home)
    (files, opened.map some)
  else (scene.files, .ok none)

/-- Writes the store, if one is open. -/
def flushStore (store : Option Store) (files : Files) : Files × Except Store.Error Unit :=
  match store with
  | some store => store.flush files
  | none => (files, .ok ())

/-- Logs in, does what the command does, and logs out. The logout is tried however the command
ended, and how it ends itself does not matter; only a command that breaks the program off leaves no
time for it. Yields how the command ended. -/
def visitController (wanted : Connection) (command : ControllerCommand) (p : Presentation)
    (yes : Bool) : StateM Visit (Except Failure Unit) := do
  match ← (Step.ask (Client.login wanted.username wanted.password)).run with
  | .error failure => return .error failure
  | .ok _ =>
      match ← (command.visit p yes).run with
      | .error .overflow => return .error .overflow
      | result =>
          let _ ← (Step.ask Client.logout).run
          return result

/-- A run of a command for a controller. The store is opened before the login and written only if
the command succeeded. -/
def ControllerCommand.run (command : ControllerCommand) (p : Presentation) (options : Options)
    (config : Config) (scene : Scene) : Outcome :=
  match connection options config scene.environment scene.secrets scene.home with
  | .error failure => scene.failed failure
  | .ok wanted =>
      match wanted.client scene.files scene.wire with
      | .error cause => scene.failed (.ofClient cause)
      | .ok client =>
          match openStore options config scene with
          | (files, .error cause) => { result := .error (.ofStore cause), files }
          | (files, .ok store) =>
              let (result, visit) :=
                (visitController wanted command p options.yes).run ⟨client, store, []⟩
              let output := visit.output
              let attempts := visit.client.attempts
              let sent := visit.client.wire.sent
              match result with
              | .error failure => { result := .error failure, output, files, attempts, sent }
              | .ok () =>
                  let (files, written) := flushStore visit.store files
                  { result := written.mapError Failure.ofStore, output, files, attempts, sent }

/-! ## Runs -/

/-- A run that needs the configuration, and how output looks under it. -/
def configured (options : Options) (scene : Scene)
    (go : Config → Presentation → Outcome) : Outcome :=
  match Config.load scene.files scene.environment scene.home with
  | .error cause => scene.failed (.config cause)
  | .ok config => go config (presentation options config)

/-- A run of the program. Scripts for the completion of command lines are not made here. -/
def Invocation.run (invocation : Invocation) (scene : Scene) : Outcome :=
  let options := invocation.options
  match invocation.command with
  | .completions _ => { result := .ok (), files := scene.files }
  | .config command => configured options scene fun config p => command.run p options config scene
  | .controller command =>
      configured options scene fun config p => command.run p options config scene
  | .store command => configured options scene fun config p =>
      match Store.open? scene.files (storeDirectory options config scene.home) with
      | (files, .error cause) => { result := .error (.ofStore cause), files }
      | (files, .ok store) => command.run p options.yes store { scene with files }

end NetConsole.Console
