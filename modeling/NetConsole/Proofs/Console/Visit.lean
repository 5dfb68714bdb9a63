import NetConsole.Console.Visit
import NetConsole.Proofs.Client.Attempts

/-!
# The call behind a command

Every command for a controller comes down to at most one call on the client: what it does before,
it can only refuse, and what it does afterwards leaves the client alone.
-/

set_option autoImplicit false

namespace NetConsole.Console

open Stepwise

variable {α β : Type}

/-! ## Steps -/

namespace Step

theorem run_ask (operation : Operation α) (visit : Visit) :
    (ask operation).run visit = ((operation.run visit.client).1.mapError Failure.ofClient,
      { visit with client := (operation.run visit.client).2 }) := rfl

/-- A step leaves the client alone. -/
def Aside (step : Step α) : Prop :=
  ∀ visit : Visit, (step.run visit).2.client = visit.client

theorem aside_print (p : Presentation) (text : String) : Aside (print p text) := fun _ => rfl

theorem aside_printReply (p : Presentation) (action : String) (reply : CommandReply) :
    Aside (printReply p action reply) := fun _ => rfl

theorem Aside.bind {step : Step α} {next : α → Step β} (one : Aside step)
    (two : ∀ value, Aside (next value)) : Aside (step >>= next) := by
  intro visit
  rcases ran : step.run visit with ⟨result, between⟩
  have kept := one visit
  rw [ran] at kept
  cases result with
  | error failure =>
      rw [run_bind_error ran]
      exact kept
  | ok value =>
      rw [run_bind_ok ran, two value between]
      exact kept

/-- How keeping records ends, and the store that it leaves, is up to the store. -/
theorem exists_run_keep [Record α] (resource : Resource) (key : α → String) (records : List α)
    (store : Option Store) : ∃ result after, ∀ visit : Visit, visit.store = store →
      (keep resource key records).run visit = (result, { visit with store := after }) := by
  cases store with
  | none =>
      refine ⟨.ok (), none, ?_⟩
      rintro ⟨client, _, output⟩ rfl
      rfl
  | some store =>
      cases kept : store.upsert resource.collection keyField
          (records.map fun record => (key record, Store.documentOf record)) with
      | error cause =>
          refine ⟨.error (.ofStore cause), some store, ?_⟩
          rintro ⟨client, _, output⟩ rfl
          rw [keep, run_bind, run_get]
          dsimp only
          rw [kept]
          rfl
      | ok pair =>
          refine ⟨.ok (), some pair.2, ?_⟩
          rintro ⟨client, _, output⟩ rfl
          rw [keep, run_bind, run_get]
          dsimp only
          rw [kept]
          rfl

theorem aside_keep [Record α] (resource : Resource) (key : α → String) (records : List α) :
    Aside (keep resource key records) := by
  intro visit
  obtain ⟨result, after, kept⟩ := exists_run_keep resource key records visit.store
  rw [kept visit rfl]

/-- A step makes a call, or refuses to make any. If the call fails, so does the step, for the same
cause. -/
structure Calls (step : Step Unit) (call? : Option Call) : Prop where
  none : call? = none → ∀ visit : Visit, (step.run visit).2.client = visit.client ∧
    ∃ failure, (step.run visit).1 = .error failure
  some : ∀ call, call? = some call → ∀ visit : Visit,
    (step.run visit).2.client = (call.turn visit.client).after ∧
      ∀ cause, (call.turn visit.client).result = .error cause →
        (step.run visit).1 = .error (.ofClient cause)

/-- A step that asks first and leaves the client alone afterwards. -/
theorem calls_ask {call : Call} {operation : Operation α} {next : α → Step Unit}
    (same : call.operation = operation.ending) (aside : ∀ value, Aside (next value)) :
    Calls (ask operation >>= next) (some call) := by
  constructor
  · intro same
    cases same
  · intro _ same visit
    cases same
    have turned := Operation.run_ending operation visit.client
    rw [← same] at turned
    have asked := run_ask operation visit
    rcases ran : operation.run visit.client with ⟨result, after⟩
    rw [ran] at turned asked
    have ended : (call.turn visit.client).result = result.map fun _ => () :=
      congrArg Prod.fst turned
    have left : (call.turn visit.client).after = after := congrArg Prod.snd turned
    rw [ended, left]
    cases result with
    | error cause =>
        rw [run_bind_error asked]
        refine ⟨rfl, ?_⟩
        intro _ same
        cases same
        rfl
    | ok value =>
        rw [run_bind_ok asked]
        refine ⟨aside value _, ?_⟩
        intro _ same
        cases same

theorem calls_throw (failure : Failure) : Calls (throw failure) none :=
  ⟨fun _ _ => ⟨rfl, failure, rfl⟩, fun _ same => by cases same⟩

theorem calls_confirm {next : Unit → Step Unit} {call : Call} (yes : Bool) (action : String)
    (calls : Calls (next ()) (some call)) :
    Calls (confirm yes action >>= next) (if yes then some call else none) := by
  cases yes with
  | false => exact calls_throw (.unconfirmed action)
  | true => exact calls

end Step

open Step

/-! ## Commands -/

/-- The call behind a command that lists or gets records. -/
def RecordCommand.call (α : Type) [Record α] (resource path : String) : RecordCommand → Call
  | .list paging => .list α path paging.wanted?
  | .get id => .lookup α resource path id

/-- The call behind a command for devices. -/
def DeviceCommand.call : DeviceCommand → Call
  | .list filter paging => .listDevicesShort filter paging.wanted?
  | .get id => .lookup Device "device" Client.devicesPath id
  | .inspect mac => .getDeviceByMac mac
  | .address mac => .deviceIp mac

/-- The call behind a command for access points, unless it has to be confirmed and was not. -/
def AccessPointCommand.call? (yes : Bool) : AccessPointCommand → Option Call
  | .locate mac off => some (.setLocate mac !off)
  | .locating mac => some (.isLocating mac)
  | .restart mac => if yes then some (.restartAp mac) else none
  | .disable mac => if yes then some (.disableAp mac true) else none
  | .enable mac => some (.disableAp mac false)
  | .rename mac name => some (.renameAp mac name)

/-- The call behind a command for stations. -/
def StationCommand.call : StationCommand → Call
  | .block mac => .blockClient mac true
  | .unblock mac => .blockClient mac false
  | .authorizeGuest mac limits => .authorizeGuest mac limits
  | .unauthorizeGuest mac => .unauthorizeGuest mac

/-- The call behind a request as it is worded, unless its data are not JSON. -/
def RawCommand.call? (command : RawCommand) : Option Call :=
  match command.data.map (Json.parseAs .any) with
  | some (.error _) => none
  | _ => some (.executeWriting
      { method := command.method, path := command.path, body := command.data.map Text.bytes })

/-- The call behind a command, if it is not refused before any is made. -/
def ControllerCommand.call? (yes : Bool) : ControllerCommand → Option Call
  | .alarms command => some (command.call Alarm "alarm" Client.alarmsPath)
  | .events command => some (command.call Event "event" Client.eventsPath)
  | .devices command => some command.call
  | .accessPoints command => command.call? yes
  | .stations command => some command.call
  | .users command => some (command.call User "user" Client.usersPath)
  | .sites command => some (command.call Site "site" Client.sitesPath)
  | .raw command => command.call?

private theorem calls_listing [Record α] {call : Call} {operation : Operation (List α)}
    (same : call.operation = operation.ending) (resource : Resource) (key : α → String)
    (p : Presentation) (text : List α → String) :
    Calls (do
      let records ← ask operation
      keep resource key records
      print p (text records)) (some call) :=
  calls_ask same fun records => (aside_keep resource key records).bind fun _ => aside_print p _

theorem DeviceCommand.calls_visit (p : Presentation) (command : DeviceCommand) :
    Calls (command.visit p) (some command.call) := by
  cases command with
  | list filter paging => exact calls_listing rfl .devices _ p _
  | get | inspect | address => exact calls_ask rfl fun _ => aside_print p _

theorem AccessPointCommand.calls_visit (p : Presentation) (yes : Bool)
    (command : AccessPointCommand) : Calls (command.visit p yes) (command.call? yes) := by
  cases command with
  | locate | enable | rename => exact calls_ask rfl fun reply => aside_printReply p _ reply
  | locating => exact calls_ask rfl fun _ => aside_print p _
  | restart mac =>
      have calls : Calls _ (some (.restartAp mac)) :=
        calls_ask rfl fun reply => aside_printReply p "restart" reply
      exact calls_confirm yes "ap restart" calls
  | disable mac =>
      have calls : Calls _ (some (.disableAp mac true)) :=
        calls_ask rfl fun reply => aside_printReply p "disable" reply
      exact calls_confirm yes "ap disable" calls

theorem StationCommand.calls_visit (p : Presentation) (command : StationCommand) :
    Calls (command.visit p) (some command.call) := by
  cases command <;> exact calls_ask rfl fun reply => aside_printReply p _ reply

/-- Sending a request and writing the body of its answer as it comes. -/
def writing (request : Request) : Step Unit := do
  let visit ← get
  let ((bytes, outcome), client) := (Client.executeWriting request).run visit.client
  set { visit with client, output := visit.output ++ bytes }
  match outcome with
  | .ok _ => write (Text.bytes "\n")
  | .error cause => throw (.ofClient cause)

theorem RawCommand.visit_cases (command : RawCommand) :
    (∃ reason, command.visit = throw (.json reason) ∧ command.call? = none) ∨
      ∃ request : Request, request.anonymous = false ∧ command.visit = writing request ∧
        command.call? = some (.executeWriting request) := by
  unfold RawCommand.visit RawCommand.call?
  cases command.data.map (Json.parseAs .any) with
  | none => exact .inr ⟨_, rfl, rfl, rfl⟩
  | some parsed =>
      cases parsed with
      | error reason => exact .inl ⟨reason, rfl, rfl⟩
      | ok value => exact .inr ⟨_, rfl, rfl, rfl⟩

theorem calls_writing {request : Request} (guarded : request.anonymous = false) :
    Calls (writing request) (some (.executeWriting request)) := by
  have worded : Call.worded request = request := by
    rw [Call.worded, ← guarded]
  constructor
  · intro same
    cases same
  · intro _ same visit
    cases same
    rcases written : Client.executeWriting request visit.client with ⟨⟨bytes, outcome⟩, after⟩
    have ended : ((Call.executeWriting request).turn visit.client).result =
        outcome.map fun _ => () := by
      change ((Client.executeWriting (Call.worded request) visit.client).1.2.map fun _ => ()) = _
      rw [worded, written]
    have left : ((Call.executeWriting request).turn visit.client).after = after := by
      change (Client.executeWriting (Call.worded request) visit.client).2 = _
      rw [worded, written]
    have ran : (Client.executeWriting request).run visit.client = _ := written
    rw [ended, left, writing, run_bind, run_get]
    dsimp only
    rw [ran]
    cases outcome with
    | error cause =>
        refine ⟨rfl, ?_⟩
        intro _ same
        cases same
        rfl
    | ok answer =>
        refine ⟨rfl, ?_⟩
        intro _ same
        cases same

theorem RawCommand.calls_visit (command : RawCommand) : Calls command.visit command.call? := by
  rcases command.visit_cases with ⟨reason, same, none⟩ | ⟨request, guarded, same, made⟩
  · rw [same, none]
    exact calls_throw (.json reason)
  · rw [same, made]
    exact calls_writing guarded

/-- Every command makes the call behind it, or is refused before it makes any. -/
theorem ControllerCommand.calls_visit (p : Presentation) (yes : Bool)
    (command : ControllerCommand) : Calls (command.visit p yes) (command.call? yes) := by
  cases command with
  | alarms command | events command | users command | sites command =>
      cases command with
      | list paging => exact calls_listing rfl _ _ p _
      | get id => exact calls_ask rfl fun _ => aside_print p _
  | devices command => exact command.calls_visit p
  | accessPoints command => exact command.calls_visit p yes
  | stations command => exact command.calls_visit p
  | raw command => exact command.calls_visit

end NetConsole.Console
