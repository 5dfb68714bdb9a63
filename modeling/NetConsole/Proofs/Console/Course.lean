import NetConsole.Console.Run
import NetConsole.Proofs.Console.Visit
import Mathlib.Data.List.Nodup

/-!
# The course of a run

Which requests a run for a controller sets out to make, and in which order: none at all, or the
login alone, or the login, what the command asks for, and the logout. The logout comes last whatever
became of the command, and its own failure is not told. There is none only where keeping records
breaks the run off, because no id is left for a new one.
-/

set_option autoImplicit false

namespace NetConsole.Console

open Stepwise

/-! ## Broken visits -/

/-- A store is open, and there are records that it has no id left for. -/
def OutOfIds (store : Option Store) : Prop :=
  ∃ held name records, store = some held ∧
    held.upsert name Step.keyField records = .error .overflow

namespace Step

/-- A step breaks a run off only if the store has no id left. -/
def Breaks {α : Type} (step : Step α) : Prop :=
  ∀ visit : Visit, (step.run visit).1 = .error .overflow → OutOfIds visit.store

theorem ofClient_ne_overflow (cause : ClientError) : Failure.ofClient cause ≠ .overflow := by
  cases cause with
  | transport timedOut => cases timedOut <;> exact nofun
  | refused refusal =>
      unfold Failure.ofClient
      dsimp only
      split <;> exact nofun
  | _ => exact nofun

theorem breaks_keep {α : Type} [Record α] (resource : Resource) (key : α → String)
    (records : List α) : Breaks (keep resource key records) := by
  intro visit broken
  rw [keep, run_bind, run_get] at broken
  dsimp only at broken
  cases open? : visit.store with
  | none =>
      rw [open?] at broken
      cases broken
  | some store =>
      rw [open?] at broken
      dsimp only at broken
      cases kept : store.upsert resource.collection keyField
          (records.map fun record => (key record, Store.documentOf record)) with
      | ok pair =>
          rw [kept] at broken
          cases broken
      | error cause =>
          rw [kept] at broken
          cases cause with
          | overflow => exact ⟨store, _, _, rfl, kept⟩
          | _ => cases broken

theorem breaks_print (p : Presentation) (text : String) : Breaks (print p text) :=
  fun _ broken => nomatch broken

theorem breaks_printReply (p : Presentation) (action : String) (reply : CommandReply) :
    Breaks (printReply p action reply) := fun _ broken => nomatch broken

/-- A question leaves the store as it is. -/
theorem breaks_ask {α : Type} {operation : Operation α} {next : α → Step Unit}
    (rest : ∀ value, Breaks (next value)) : Breaks (ask operation >>= next) := by
  intro visit broken
  have asked := run_ask operation visit
  rcases ran : operation.run visit.client with ⟨result, after⟩
  rw [ran] at asked
  cases result with
  | error cause =>
      rw [run_bind_error asked] at broken
      exact absurd (Except.error.inj broken) (ofClient_ne_overflow cause)
  | ok value =>
      rw [run_bind_ok asked] at broken
      exact rest value { visit with client := after } broken

theorem breaks_keep_print {α : Type} [Record α] (resource : Resource) (key : α → String)
    (records : List α) (p : Presentation) (text : String) :
    Breaks (keep resource key records >>= fun _ => print p text) := by
  intro visit broken
  apply breaks_keep resource key records visit
  rcases ran : (keep resource key records).run visit with ⟨failure | done, after⟩
  · rw [run_bind_error ran] at broken
    exact broken
  · rw [run_bind_ok ran] at broken
    cases broken

theorem breaks_confirm {next : Unit → Step Unit} (yes : Bool) (action : String)
    (rest : Breaks (next ())) : Breaks (confirm yes action >>= next) := by
  cases yes with
  | false => exact fun _ broken => nomatch broken
  | true => exact rest

theorem writing_ne_overflow (request : Request) (visit : Visit) :
    ((writing request).run visit).1 ≠ .error .overflow := by
  intro broken
  rw [writing, run_bind, run_get] at broken
  dsimp only at broken
  rcases ran : (Client.executeWriting request).run visit.client
    with ⟨⟨bytes, cause | answer⟩, after⟩ <;> rw [ran] at broken
  · exact absurd (Except.error.inj broken) (ofClient_ne_overflow cause)
  · cases broken

end Step

open Step

theorem RawCommand.visit_ne_overflow (command : RawCommand) (visit : Visit) :
    (command.visit.run visit).1 ≠ .error .overflow := by
  rcases command.visit_cases with ⟨reason, same, -⟩ | ⟨request, -, same, -⟩
  · rw [same]
    exact fun broken => nomatch broken
  · rw [same]
    exact writing_ne_overflow request visit

/-- A command breaks the run off only where it keeps records that there are no ids for. -/
theorem ControllerCommand.breaks_visit (p : Presentation) (yes : Bool)
    (command : ControllerCommand) : Breaks (command.visit p yes) := by
  cases command with
  | alarms command | events command | users command | sites command =>
      cases command with
      | list paging => exact breaks_ask fun records => breaks_keep_print _ _ records p _
      | get id => exact breaks_ask fun _ => breaks_print p _
  | devices command =>
      cases command with
      | list filter paging => exact breaks_ask fun records => breaks_keep_print _ _ records p _
      | get | inspect | address => exact breaks_ask fun _ => breaks_print p _
  | accessPoints command =>
      cases command with
      | locate | enable | rename => exact breaks_ask fun reply => breaks_printReply p _ reply
      | locating => exact breaks_ask fun _ => breaks_print p _
      | restart | disable =>
          apply breaks_confirm
          exact breaks_ask fun reply => breaks_printReply p _ reply
  | stations command =>
      cases command <;> exact breaks_ask fun reply => breaks_printReply p _ reply
  | raw command => exact fun visit broken => absurd broken (command.visit_ne_overflow visit)

/-! ## Visits -/

/-- The calls after a command that ended like this: a logout, unless it broke the run off. -/
def parting : Except Failure Unit → List Call
  | .error .overflow => []
  | _ => [.logout]

theorem parting_of_ne {result : Except Failure Unit} (whole : result ≠ .error .overflow) :
    parting result = [.logout] := by
  unfold parting
  split
  · exact absurd rfl whole
  · rfl

theorem eq_logout_of_mem_parting {result : Except Failure Unit} {call : Call}
    (member : call ∈ parting result) : call = .logout := by
  unfold parting at member
  split at member
  · cases member
  · exact List.mem_singleton.mp member

/-- A visit ends with a failed login, or else with what comes after the command. -/
theorem run_visitController (wanted : Connection) (command : ControllerCommand)
    (p : Presentation) (yes : Bool) (visit : Visit) :
    (visitController wanted command p yes).run visit =
      let entry := (Call.login wanted.username wanted.password).turn visit.client
      match entry.result with
      | .error cause => (.error (.ofClient cause), { visit with client := entry.after })
      | .ok () =>
          let (result, inside) := (command.visit p yes).run { visit with client := entry.after }
          (result, { inside with client := Call.clientAfter (parting result) inside.client }) := by
  have turned := Operation.run_ending (Client.login wanted.username wanted.password) visit.client
  rcases ran : (Client.login wanted.username wanted.password).run visit.client with ⟨result, after⟩
  rw [ran] at turned
  have ended : ((Call.login wanted.username wanted.password).turn visit.client).result =
    result.map fun _ => () := congrArg Prod.fst turned
  have left : ((Call.login wanted.username wanted.password).turn visit.client).after = after :=
    congrArg Prod.snd turned
  have asked := Step.run_ask (Client.login wanted.username wanted.password) visit
  rw [ran] at asked
  dsimp only
  rw [ended, left]
  unfold visitController
  rw [StateT.run_bind]
  have entered : (Step.ask (Client.login wanted.username wanted.password)).run.run visit = _ :=
    asked
  rw [entered]
  cases result with
  | error cause => rfl
  | ok status =>
      rcases inside : (command.visit p yes).run { visit with client := after } with ⟨ended, last⟩
      have gone : (command.visit p yes).run.run { visit with client := after } = (ended, last) :=
        inside
      change StateT.run ((command.visit p yes).run >>= _) { visit with client := after } = _
      rw [StateT.run_bind, gone]
      cases ended with
      | ok done => rfl
      | error failure => cases failure <;> rfl

/-- The calls that a visit makes which ends with a result: a login, and if it succeeds, the one
behind the command and those after it. -/
def visitCalls (wanted : Connection) (command : ControllerCommand) (yes : Bool)
    (result : Except Failure Unit) (client : Client) : List Call :=
  match ((Call.login wanted.username wanted.password).turn client).result with
  | .error _ => [.login wanted.username wanted.password]
  | .ok () =>
      .login wanted.username wanted.password :: ((command.call? yes).toList ++ parting result)

theorem visit_client (command : ControllerCommand) (p : Presentation) (yes : Bool)
    (visit : Visit) : ((command.visit p yes).run visit).2.client =
      Call.clientAfter (command.call? yes).toList visit.client := by
  have calls := command.calls_visit p yes
  cases made : command.call? yes with
  | none => exact (calls.none made visit).1
  | some call => exact (calls.some call made visit).1

theorem visitController_client (wanted : Connection) (command : ControllerCommand)
    (p : Presentation) (yes : Bool) (visit : Visit) :
    ((visitController wanted command p yes).run visit).2.client =
      Call.clientAfter (visitCalls wanted command yes
        ((visitController wanted command p yes).run visit).1 visit.client) visit.client := by
  rw [run_visitController]
  unfold visitCalls
  dsimp only
  cases ((Call.login wanted.username wanted.password).turn visit.client).result with
  | error cause => rfl
  | ok done =>
      have inside := visit_client command p yes { visit with
        client := ((Call.login wanted.username wanted.password).turn visit.client).after }
      rcases ran : (command.visit p yes).run { visit with
        client := ((Call.login wanted.username wanted.password).turn visit.client).after }
        with ⟨result, after⟩
      rw [ran] at inside
      rw [Call.clientAfter, List.foldl_cons, List.foldl_append]
      dsimp only at inside ⊢
      rw [inside]
      rfl

/-! ## Runs -/

theorem Connection.client_eq_fresh {wanted : Connection} {files : Files} {wire : Wire}
    {client : Client} (built : wanted.client files wire = .ok client) :
    ∃ session, client = Client.fresh session wire := by
  simp only [Connection.client, bind, Except.bind, pure, Except.pure] at built
  split at built
  · cases built
  · split at built
    · cases built
    · cases built
      exact ⟨_, rfl⟩

/-- The outcome of a run whose visit ended like this; the files are those it began with. -/
def Visit.outcome (files : Files) (result : Except Failure Unit) (visit : Visit) : Outcome :=
  match result with
  | .error failure =>
      { result := .error failure, output := visit.output, files
        attempts := visit.client.attempts, sent := visit.client.wire.sent }
  | .ok () =>
      let (files, written) := flushStore visit.store files
      { result := written.mapError Failure.ofStore, output := visit.output, files
        attempts := visit.client.attempts, sent := visit.client.wire.sent }

theorem Visit.outcome_attempts (files : Files) (result : Except Failure Unit) (visit : Visit) :
    (visit.outcome files result).attempts = visit.client.attempts := by
  cases result <;> rfl

theorem Visit.outcome_sent (files : Files) (result : Except Failure Unit) (visit : Visit) :
    (visit.outcome files result).sent = visit.client.wire.sent := by
  cases result <;> rfl

/-- A client for a run, with the files and the store that its visit begins with. -/
structure Ready (options : Options) (config : Config) (scene : Scene) (wanted : Connection)
    (session : Session) (files : Files) (store : Option Store) : Prop where
  connection : connection options config scene.environment scene.secrets scene.home = .ok wanted
  client : wanted.client scene.files scene.wire = .ok (.fresh session scene.wire)
  opened : openStore options config scene = (files, .ok store)

/-- How far a run for a controller gets, and its outcome from there. -/
inductive ControllerCommand.Runs (command : ControllerCommand) (p : Presentation)
    (options : Options) (config : Config) (scene : Scene) : Outcome → Prop where
  /-- there is no connection to be made -/
  | unresolved {failure : Failure} :
      connection options config scene.environment scene.secrets scene.home = .error failure →
      Runs command p options config scene (scene.failed failure)
  /-- there is no client for the connection -/
  | unbuilt {wanted : Connection} {cause : ClientError} :
      connection options config scene.environment scene.secrets scene.home = .ok wanted →
      wanted.client scene.files scene.wire = .error cause →
      Runs command p options config scene (scene.failed (.ofClient cause))
  /-- the store cannot be opened -/
  | unopened {wanted : Connection} {session : Session} {files : Files} {cause : Store.Error} :
      connection options config scene.environment scene.secrets scene.home = .ok wanted →
      wanted.client scene.files scene.wire = .ok (.fresh session scene.wire) →
      openStore options config scene = (files, .error cause) →
      Runs command p options config scene { result := .error (.ofStore cause), files }
  /-- the controller is visited -/
  | visited {wanted : Connection} {session : Session} {files : Files} {store : Option Store}
      {result : Except Failure Unit} {visit : Visit} :
      Ready options config scene wanted session files store →
      (visitController wanted command p options.yes).run ⟨.fresh session scene.wire, store, []⟩ =
        (result, visit) →
      Runs command p options config scene (visit.outcome files result)

theorem ControllerCommand.runs (command : ControllerCommand) (p : Presentation)
    (options : Options) (config : Config) (scene : Scene) :
    command.Runs p options config scene (command.run p options config scene) := by
  unfold ControllerCommand.run
  cases resolved : connection options config scene.environment scene.secrets scene.home with
  | error failure => exact .unresolved resolved
  | ok wanted =>
      dsimp only
      cases built : wanted.client scene.files scene.wire with
      | error cause => exact .unbuilt resolved built
      | ok client =>
          obtain ⟨session, rfl⟩ := Connection.client_eq_fresh built
          rcases opened : openStore options config scene with ⟨files, cause | store⟩
          · exact .unopened resolved built opened
          · have ready : Ready options config scene wanted session files store :=
              ⟨resolved, built, opened⟩
            dsimp only
            rcases ran : (visitController wanted command p options.yes).run
              ⟨.fresh session scene.wire, store, []⟩ with ⟨failure | done, visit⟩
            · exact .visited ready ran
            · exact .visited ready ran

/-! ## Courses -/

/-- The change of a device record that a command asks for: only the commands that disable, enable
or rename an access point do. -/
def ControllerCommand.change? : ControllerCommand → Option (String × DeviceChange)
  | .accessPoints (.disable mac) => some (mac, { disabled := some true })
  | .accessPoints (.enable mac) => some (mac, { disabled := some false })
  | .accessPoints (.rename mac name) => some (mac, { name := some name })
  | _ => none

/-- The requests that a command sets out to make on a client that is logged in. -/
inductive ControllerCommand.Tries (command : ControllerCommand) (entered : Client) :
    List Request → Prop where
  /-- none, if the command is refused before it makes any -/
  | refused : Tries command entered []
  /-- one, under a session token -/
  | one {request : Request} : request.anonymous = false → Tries command entered [request]
  /-- a second one, once the first one has brought the id of the device that is to be changed -/
  | change {mac change id} : command.change? = some (mac, change) →
      ((Client.deviceId mac).run entered).1 = .ok id →
      Tries command entered [Client.deviceRequest mac, Client.changeRequest id change]

theorem ControllerCommand.Tries.length_le {command : ControllerCommand} {entered : Client}
    {tried : List Request} (tries : command.Tries entered tried) : tried.length ≤ 2 := by
  cases tries with
  | refused => exact Nat.zero_le 2
  | one => exact Nat.le_succ 1
  | change => exact Nat.le_refl 2

theorem ControllerCommand.Tries.guarded {command : ControllerCommand} {entered : Client}
    {tried : List Request} (tries : command.Tries entered tried) :
    ∀ request ∈ tried, request.anonymous = false := by
  cases tries with
  | refused => exact fun _ member => absurd member List.not_mem_nil
  | one named =>
      intro request member
      rw [List.mem_singleton.mp member]
      exact named
  | change =>
      intro request member
      simp only [List.mem_cons, List.not_mem_nil, or_false] at member
      rcases member with rfl | rfl <;> rfl

theorem ControllerCommand.Tries.nodup {command : ControllerCommand} {entered : Client}
    {tried : List Request} (tries : command.Tries entered tried) : tried.Nodup := by
  cases tries with
  | refused => exact List.nodup_nil
  | one => exact List.nodup_singleton _
  | change =>
      refine List.nodup_cons.mpr ⟨fun member => ?_, List.nodup_singleton _⟩
      have same := congrArg Request.method (List.mem_singleton.mp member)
      cases same

theorem ControllerCommand.change?_of_call? {command : ControllerCommand} {yes : Bool} {call : Call}
    (made : command.call? yes = some call) :
    call.isAccount = false ∧ call.change? = command.change? := by
  cases command with
  | alarms command | events command | users command | sites command | devices command
  | stations command =>
      cases made
      cases command <;> exact ⟨rfl, rfl⟩
  | accessPoints command =>
      cases command with
      | locate | locating | enable | rename =>
          cases made
          exact ⟨rfl, rfl⟩
      | restart | disable =>
          cases yes with
          | false => cases made
          | true =>
              cases made
              exact ⟨rfl, rfl⟩
  | raw command =>
      change command.call? = some call at made
      rcases command.visit_cases with ⟨reason, -, refused⟩ | ⟨request, -, -, same⟩
      · rw [refused] at made
        cases made
      · rw [same] at made
        cases made
        exact ⟨rfl, rfl⟩

theorem ControllerCommand.exists_tries (command : ControllerCommand) (yes : Bool)
    (entered : Client) : ∃ tried, command.Tries entered tried ∧
      (Call.clientAfter (command.call? yes).toList entered).attempts =
        entered.attempts ++ tried := by
  cases made : command.call? yes with
  | none => exact ⟨[], .refused, (List.append_nil _).symm⟩
  | some call =>
      obtain ⟨ordinary, changes⟩ := ControllerCommand.change?_of_call? made
      obtain ⟨tried, tries, attempts⟩ := call.exists_tries entered
      refine ⟨tried, ?_, attempts⟩
      cases tries with
      | refused => exact .refused
      | one named => exact .one (named.trans ordinary)
      | change asks found => exact .change (changes.symm.trans asks) found

/-- The course of a run for a controller, as it can be told from its outcome. -/
inductive Course (command : ControllerCommand) (p : Presentation) (options : Options)
    (config : Config) (scene : Scene) (outcome : Outcome) : Prop where
  /-- there is no connection to be made, and nothing is set out -/
  | unresolved {failure : Failure} :
      connection options config scene.environment scene.secrets scene.home = .error failure →
      outcome.attempts = [] → outcome.result = .error failure →
      Course command p options config scene outcome
  /-- there is no client for the connection -/
  | unbuilt {wanted : Connection} {cause : ClientError} :
      connection options config scene.environment scene.secrets scene.home = .ok wanted →
      wanted.client scene.files scene.wire = .error cause →
      outcome.attempts = [] → outcome.result = .error (.ofClient cause) →
      Course command p options config scene outcome
  /-- the store cannot be opened -/
  | unopened {wanted : Connection} {client : Client} {files : Files} {cause : Store.Error} :
      connection options config scene.environment scene.secrets scene.home = .ok wanted →
      wanted.client scene.files scene.wire = .ok client →
      openStore options config scene = (files, .error cause) →
      outcome.attempts = [] → outcome.result = .error (.ofStore cause) →
      Course command p options config scene outcome
  /-- the login fails, and is all that is set out -/
  | unentered {wanted : Connection} {client : Client} {cause : ClientError} :
      connection options config scene.environment scene.secrets scene.home = .ok wanted →
      wanted.client scene.files scene.wire = .ok client →
      ((Call.login wanted.username wanted.password).turn client).result = .error cause →
      outcome.attempts = [Client.loginRequest wanted.username wanted.password] →
      outcome.result = .error (.ofClient cause) →
      Course command p options config scene outcome
  /-- the command is gone through between the login and the logout, and the run ends as the
  command does, or as the writing of the store does if the command succeeds -/
  | visited {wanted : Connection} {client entered : Client} {files : Files}
      {store : Option Store} {inside : Visit} {result : Except Failure Unit}
      {tried : List Request} :
      connection options config scene.environment scene.secrets scene.home = .ok wanted →
      wanted.client scene.files scene.wire = .ok client →
      openStore options config scene = (files, .ok store) →
      ((Call.login wanted.username wanted.password).turn client).result = .ok () →
      entered = ((Call.login wanted.username wanted.password).turn client).after →
      (command.visit p options.yes).run ⟨entered, store, []⟩ = (result, inside) →
      command.Tries entered tried → tried.length ≤ 2 → result ≠ .error .overflow →
      outcome.attempts = Client.loginRequest wanted.username wanted.password ::
        (tried ++ [Client.logoutRequest]) →
      outcome.result = (do
        result
        (flushStore inside.store files).2.mapError Failure.ofStore) →
      Course command p options config scene outcome
  /-- the command is broken off as it keeps records, and there is no logout -/
  | broken {wanted : Connection} {client entered : Client} {files : Files}
      {store : Option Store} {inside : Visit} {tried : List Request} :
      connection options config scene.environment scene.secrets scene.home = .ok wanted →
      wanted.client scene.files scene.wire = .ok client →
      openStore options config scene = (files, .ok store) →
      ((Call.login wanted.username wanted.password).turn client).result = .ok () →
      entered = ((Call.login wanted.username wanted.password).turn client).after →
      (command.visit p options.yes).run ⟨entered, store, []⟩ = (.error .overflow, inside) →
      OutOfIds store →
      command.Tries entered tried → tried.length ≤ 2 →
      outcome.attempts = Client.loginRequest wanted.username wanted.password :: tried →
      outcome.result = .error .overflow →
      Course command p options config scene outcome

theorem login_attempts (username password : String) (client : Client) :
    ((Call.login username password).turn client).after.attempts =
      client.attempts ++ [Client.loginRequest username password] :=
  (Client.tries_login username password).ending client

theorem logout_attempts (client : Client) :
    (Call.logout.turn client).after.attempts = client.attempts ++ [Client.logoutRequest] :=
  Client.tries_logout client

theorem ControllerCommand.run_course (command : ControllerCommand) (p : Presentation)
    (options : Options) (config : Config) (scene : Scene) :
    Course command p options config scene (command.run p options config scene) := by
  have runs := command.runs p options config scene
  generalize command.run p options config scene = outcome at runs
  cases runs with
  | unresolved resolved => exact .unresolved resolved rfl rfl
  | unbuilt resolved built => exact .unbuilt resolved built rfl rfl
  | unopened resolved built opened => exact .unopened resolved built opened rfl rfl
  | @visited wanted session files store result visit ready ran =>
      have entry := login_attempts wanted.username wanted.password (.fresh session scene.wire)
      rw [run_visitController] at ran
      dsimp only at ran
      cases ended : ((Call.login wanted.username wanted.password).turn
        (.fresh session scene.wire)).result with
      | error cause =>
          rw [ended] at ran
          cases ran
          exact .unentered ready.connection ready.client ended entry rfl
      | ok done =>
          rw [ended] at ran
          generalize entered : ((Call.login wanted.username wanted.password).turn
            (.fresh session scene.wire)).after = client at entry ran
          obtain ⟨tried, tries, attempted⟩ := command.exists_tries options.yes client
          have left := visit_client command p options.yes ⟨client, store, []⟩
          rcases inner : (command.visit p options.yes).run ⟨client, store, []⟩
            with ⟨ended, inside⟩
          dsimp only at ran
          rw [inner] at left ran
          cases ran
          have within : inside.client.attempts =
              Client.loginRequest wanted.username wanted.password :: tried := by
            rw [left, attempted, entry]
            rfl
          by_cases whole : result = .error .overflow
          · subst whole
            have outOfIds := command.breaks_visit p options.yes ⟨client, store, []⟩
              (congrArg Prod.fst inner)
            exact .broken ready.connection ready.client ready.opened ended entered.symm inner
              outOfIds tries tries.length_le within rfl
          · have attempts : (Call.clientAfter (parting result) inside.client).attempts =
                Client.loginRequest wanted.username wanted.password ::
                  (tried ++ [Client.logoutRequest]) := by
              rw [parting_of_ne whole]
              exact (logout_attempts inside.client).trans (congrArg (· ++ _) within)
            cases result with
            | error failure =>
                exact .visited ready.connection ready.client ready.opened ended entered.symm inner
                  tries tries.length_le whole attempts rfl
            | ok finished =>
                exact .visited ready.connection ready.client ready.opened ended entered.symm inner
                  tries tries.length_le whole attempts rfl

/-- In every course of a run the requests are all different: none is made a second time. -/
theorem Course.nodup {command : ControllerCommand} {p : Presentation} {options : Options}
    {config : Config} {scene : Scene} {outcome : Outcome}
    (course : Course command p options config scene outcome) : outcome.attempts.Nodup := by
  cases course with
  | unresolved _ attempts | unbuilt _ _ attempts | unopened _ _ _ attempts =>
      rw [attempts]
      exact List.nodup_nil
  | unentered _ _ _ attempts =>
      rw [attempts]
      exact List.nodup_singleton _
  | @broken _ _ _ _ _ _ tried _ _ _ _ _ _ _ tries _ attempts =>
      rw [attempts, List.nodup_cons]
      refine ⟨fun within => ?_, tries.nodup⟩
      cases tries.guarded _ within
  | @visited _ _ _ _ _ _ _ tried _ _ _ _ _ _ tries _ _ attempts =>
      -- a command's requests need a session token, and the other two differ in their place
      rw [attempts, List.nodup_cons, List.nodup_append]
      refine ⟨fun member => ?_, tries.nodup, List.nodup_singleton _, ?_⟩
      · rcases List.mem_append.mp member with within | last
        · cases tries.guarded _ within
        · have same : "/api/login" = "/api/logoff" :=
            congrArg Request.path (List.mem_singleton.mp last)
          exact absurd same (by decide)
      · intro request within _ last same
        subst same
        rw [List.mem_singleton.mp last] at within
        cases tries.guarded _ within

/-- Whatever goes out in a run was set out to, in the same order and as it was worded. -/
theorem ControllerCommand.run_sent (command : ControllerCommand) (p : Presentation)
    (options : Options) (config : Config) (scene : Scene) :
    ∃ session, List.SublistForall₂ (·.Words session ·)
      ((command.run p options config scene).sent.drop scene.wire.sent.length)
      (command.run p options config scene).attempts := by
  have runs := command.runs p options config scene
  generalize command.run p options config scene = outcome at runs
  cases runs with
  | unresolved | unbuilt | unopened =>
      refine ⟨default, ?_⟩
      change List.SublistForall₂ _ (([] : List Sent).drop _) _
      rw [List.drop_nil]
      exact .nil
  | @visited wanted session files store result visit ready ran =>
      have left := visitController_client wanted command p options.yes
        ⟨.fresh session scene.wire, store, []⟩
      obtain ⟨news, tried, sent, attempts, words⟩ := Call.words_clientAfter
        (visitCalls wanted command options.yes result (.fresh session scene.wire))
        (show (Client.fresh session scene.wire).tokens.Proper from .empty)
      rw [ran] at left
      rw [← left] at sent attempts
      have outSent : visit.client.wire.sent = scene.wire.sent ++ news := sent
      have outAttempts : visit.client.attempts = tried := attempts
      refine ⟨session, ?_⟩
      rw [Visit.outcome_sent, Visit.outcome_attempts, outSent, outAttempts, List.drop_left]
      exact words

/-- A run of a command for a controller follows a course, makes no request twice, and sends nothing
that it did not set out to. Without a configuration there is no course. -/
theorem Invocation.run_requests (options : Options) (command : ControllerCommand)
    (scene : Scene) :
    match Config.load scene.files scene.environment scene.home with
    | .error cause =>
        (Invocation.run ⟨options, .controller command⟩ scene).attempts = [] ∧
          (Invocation.run ⟨options, .controller command⟩ scene).result = .error (.config cause)
    | .ok config =>
        let outcome := Invocation.run ⟨options, .controller command⟩ scene
        Course command (presentation options config) options config scene outcome ∧
          outcome.attempts.Nodup ∧
          ∃ session, List.SublistForall₂ (·.Words session ·)
            (outcome.sent.drop scene.wire.sent.length) outcome.attempts := by
  cases loaded : Config.load scene.files scene.environment scene.home with
  | error cause =>
      have failed : Invocation.run ⟨options, .controller command⟩ scene =
          scene.failed (.config cause) := by
        simp only [Invocation.run, configured, loaded]
      rw [failed]
      exact ⟨rfl, rfl⟩
  | ok config =>
      have ran : Invocation.run ⟨options, .controller command⟩ scene =
          command.run (presentation options config) options config scene := by
        simp only [Invocation.run, configured, loaded]
      dsimp only
      rw [ran]
      have course := command.run_course (presentation options config) options config scene
      exact ⟨course, course.nodup,
        command.run_sent (presentation options config) options config scene⟩

/-- A scene in which a controller tells of an alarm, and the store has one id left for alarms. -/
def lastAlarmScene : Scene where
  home := "/home"
  environment := []
  files := ⟨[(["db"], .directory), (["db", "Alarms.json"],
    .text "\x7b\"documents\":\x7b\"18446744073709551614\":\x7b\"_id\":\"a\"\x7d\x7d\x7d")]⟩
  wire :=
    { reaches := fun _ => true
      replies :=
        [.answer ⟨200, [("set-cookie", "unifises=s"), ("set-cookie", "csrf_token=t")], [], true, []⟩,
          .answer ⟨200, [], Text.bytes "\x7b\"data\":[\x7b\"_id\":\"b\"\x7d]\x7d", true, []⟩,
          .answer ⟨200, [], [], true, []⟩]
      sent := [] }

/-- Counting on after the last id breaks the run off, and nobody logs out. -/
theorem run_without_logout :
    let options : Options :=
      { controller := some "http://[::1]", username := some "u", password := some "p"
        storePath := some "/db", useStore := true }
    let outcome := Invocation.run ⟨options, .controller (.alarms (.list ⟨0, 0⟩))⟩ lastAlarmScene
    outcome.result = .error .overflow ∧ outcome.files = lastAlarmScene.files ∧
      outcome.attempts = [Client.loginRequest "u" "p", .get Client.alarmsPath] := by
  decide +kernel

end NetConsole.Console
