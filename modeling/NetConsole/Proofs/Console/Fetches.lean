import NetConsole.Proofs.Client.Listing
import NetConsole.Proofs.Console.Course
import NetConsole.Proofs.Store.Mirror

/-!
# What a run lists

The commands that list records are the only ones that change an open store, and they change it only
by adding what they list. A run writes the store if the command succeeded, and otherwise leaves the
files as it found them, once the directory of the store was made.
-/

set_option autoImplicit false

namespace NetConsole.Console

open Json Store Stepwise Operation

variable {α β : Type}

/-! ## Lists -/

/-- A list that a command asks for: the kind of its records, and the operation that fetches them,
each as the document that is kept of it, under its id. -/
structure Fetch where
  resource : Resource
  records : Operation (List (String × Json))

/-- Records as the documents that are kept of them, under their ids. -/
def documented [Record α] (id : α → String) (records : List α) : List (String × Json) :=
  records.map fun record => (id record, documentOf record)

/-- The list that an operation fetches. -/
def Fetch.of [Record α] (resource : Resource) (id : α → String)
    (operation : Operation (List α)) : Fetch :=
  ⟨resource, operation >>= fun records => pure (documented id records)⟩

/-- The list that a command asks for, if it asks for one. -/
def ControllerCommand.fetch? : ControllerCommand → Option Fetch
  | .alarms (.list paging) =>
      some (.of .alarms (fun a : Alarm => a.id) (Client.listAlarms paging.wanted?))
  | .events (.list paging) =>
      some (.of .events (fun e : Event => e.id) (Client.listEvents paging.wanted?))
  | .devices (.list filter paging) =>
      some (.of .devices (fun d : DeviceSummary => d.id)
        (Client.listDevicesShort filter paging.wanted?))
  | .users (.list paging) =>
      some (.of .users (fun u : User => u.id) (Client.listUsers paging.wanted?))
  | .sites (.list paging) =>
      some (.of .sites (fun s : Site => s.id) (Client.listSites paging.wanted?))
  | _ => none

theorem yields_documented [Record α] {id : α → String} {operation : Operation (List α)}
    (yields : Yields (fun records : List α => ∀ record ∈ records, KeepsAs id record) operation)
    (resource : Resource) :
    Yields (fun records => ∀ record ∈ records, Keepable record.1 record.2)
      (Fetch.of resource id operation).records := by
  refine yields.bind fun records keeps => yields_pure fun document member => ?_
  obtain ⟨record, there, rfl⟩ := List.mem_map.mp member
  exact keeps record there

theorem yields_flatList [Record α] {id : α → String} {name : String} {fields : List Field}
    (flat : FlatRecord α id name fields) (path : String) (paging : Option Paging) :
    Yields (fun records : List α => ∀ record ∈ records, KeepsAs id record)
      (Client.list α path paging) := by
  intro before integral
  obtain ⟨left, holds⟩ := @Client.yields_list α _ path paging before integral
  refine ⟨left, fun records listed record member => ?_⟩
  obtain ⟨tree, value, whole, read, rfl⟩ := holds records listed record member
  exact flat.keepsAs whole read

/-- Where all numbers are integers, every record of a list can be kept under its id. -/
theorem yields_fetch {command : ControllerCommand} {fetch : Fetch}
    (lists : command.fetch? = some fetch) :
    Yields (fun records => ∀ record ∈ records, Keepable record.1 record.2) fetch.records := by
  cases command with
  | accessPoints | stations | raw => cases lists
  | alarms command =>
      cases command with
      | get id => cases lists
      | list paging =>
          cases lists
          exact yields_documented (yields_flatList flatRecord_alarm _ _) _
  | events command =>
      cases command with
      | get id => cases lists
      | list paging =>
          cases lists
          exact yields_documented (yields_flatList flatRecord_event _ _) _
  | users command =>
      cases command with
      | get id => cases lists
      | list paging =>
          cases lists
          exact yields_documented (yields_flatList flatRecord_user _ _) _
  | sites command =>
      cases command with
      | get id => cases lists
      | list paging =>
          cases lists
          exact yields_documented (yields_flatList flatRecord_site _ _) _
  | devices command =>
      cases command with
      | get | inspect | address => cases lists
      | list filter paging =>
          cases lists
          have summaries : Yields (fun records : List DeviceSummary => ∀ record ∈ records,
              KeepsAs (fun d : DeviceSummary => d.id) record)
              (Client.listDevicesShort filter paging.wanted?) :=
            (Client.yields_list _ _).bind fun devices _ =>
              yields_pure fun record _ => keepsAs_deviceSummary record
          exact yields_documented summaries _

/-! ## Visits and the store -/

namespace Step

/-- A step leaves the store alone. -/
def LeavesStore (step : Step α) : Prop := ∀ visit : Visit, (step.run visit).2.store = visit.store

theorem leavesStore_ask (operation : Operation α) : LeavesStore (ask operation) := fun _ => rfl

theorem leavesStore_print (p : Presentation) (text : String) : LeavesStore (print p text) :=
  fun _ => rfl

theorem leavesStore_printReply (p : Presentation) (action : String) (reply : CommandReply) :
    LeavesStore (printReply p action reply) := fun _ => rfl

theorem leavesStore_throw (failure : Failure) : LeavesStore (throw failure : Step α) := fun _ => rfl

theorem LeavesStore.bind {step : Step α} {next : α → Step β} (one : LeavesStore step)
    (two : ∀ value, LeavesStore (next value)) : LeavesStore (step >>= next) := by
  intro visit
  have kept := one visit
  rcases ran : step.run visit with ⟨result, between⟩
  rw [ran] at kept
  cases result with
  | error failure =>
      rw [run_bind_error ran]
      exact kept
  | ok value =>
      rw [run_bind_ok ran, two value between]
      exact kept

theorem leavesStore_confirm {next : Unit → Step β} (yes : Bool) (action : String)
    (leaves : LeavesStore (next ())) : LeavesStore (confirm yes action >>= next) := by
  cases yes with
  | false => exact leavesStore_throw (.unconfirmed action)
  | true => exact leaves

/-- A step that succeeds has fetched records and added them to the store, if one is open. -/
def AddsFetched (fetch : Fetch) (step : Step Unit) : Prop :=
  ∀ visit : Visit, (step.run visit).1 = .ok () →
    ∃ records, (fetch.records.run visit.client).1 = .ok records ∧
      (step.run visit).2.store =
        visit.store.map (·.withRecords fetch.resource.collection records)

end Step

theorem Resource.isValidName (resource : Resource) :
    Store.isValidName resource.collection = true := by
  cases resource <;> decide

namespace Step

/-- Records are added to an open store, unless it has no ids for them. -/
theorem run_keep [Record α] (resource : Resource) (id : α → String) (records : List α)
    (visit : Visit) : (keep resource id records).run visit = (.ok (), { visit with
        store := visit.store.map (·.withRecords resource.collection (documented id records)) }) ∨
      (keep resource id records).run visit = (.error .overflow, visit) := by
  obtain ⟨client, store, output⟩ := visit
  rw [keep, run_bind, run_get]
  cases store with
  | none => exact .inl rfl
  | some store =>
      dsimp only
      rcases upsert_records resource.isValidName store (documented id records) with
        ⟨report, added⟩ | full
      · have added : store.upsert resource.collection keyField
          (records.map fun record => (id record, documentOf record)) = _ := added
        rw [added]
        exact .inl rfl
      · have full : store.upsert resource.collection keyField
          (records.map fun record => (id record, documentOf record)) = _ := full
        rw [full]
        exact .inr rfl

theorem addsFetched_list [Record α] (resource : Resource) (id : α → String)
    (operation : Operation (List α)) (p : Presentation) (text : List α → String) :
    AddsFetched (.of resource id operation) (do
      let records ← ask operation
      keep resource id records
      print p (text records)) := by
  intro visit succeeded
  have asked := run_ask operation visit
  rcases ran : operation.run visit.client with ⟨result, after⟩
  rw [ran] at asked
  cases result with
  | error cause =>
      rw [run_bind_error asked] at succeeded
      cases succeeded
  | ok records =>
      refine ⟨documented id records, ?_, ?_⟩
      · rw [Fetch.of, run_bind_ok ran]
        rfl
      · rw [run_bind_ok asked] at succeeded ⊢
        rcases run_keep resource id records { visit with client := after } with kept | full
        · rw [run_bind_ok kept]
          rfl
        · rw [run_bind_error full] at succeeded
          cases succeeded

end Step

open Step

/-! ## Commands and the store -/

theorem AccessPointCommand.leavesStore_visit (p : Presentation) (yes : Bool)
    (command : AccessPointCommand) : LeavesStore (command.visit p yes) := by
  cases command with
  | locate mac off =>
      exact (leavesStore_ask _).bind fun reply => leavesStore_printReply p _ reply
  | locating mac => exact (leavesStore_ask _).bind fun _ => leavesStore_print p _
  | restart mac =>
      exact leavesStore_confirm yes _
        ((leavesStore_ask _).bind fun reply => leavesStore_printReply p _ reply)
  | disable mac =>
      exact leavesStore_confirm yes _
        ((leavesStore_ask _).bind fun reply => leavesStore_printReply p _ reply)
  | enable mac => exact (leavesStore_ask _).bind fun reply => leavesStore_printReply p _ reply
  | rename mac name => exact (leavesStore_ask _).bind fun reply => leavesStore_printReply p _ reply

theorem StationCommand.leavesStore_visit (p : Presentation) (command : StationCommand) :
    LeavesStore (command.visit p) := by
  cases command <;> exact (leavesStore_ask _).bind fun reply => leavesStore_printReply p _ reply

theorem leavesStore_writing (request : Request) : LeavesStore (writing request) := by
  intro visit
  rw [writing, run_bind, run_get]
  dsimp only
  rcases (Client.executeWriting request).run visit.client with ⟨⟨bytes, outcome⟩, after⟩
  cases outcome <;> rfl

theorem RawCommand.leavesStore_visit (command : RawCommand) : LeavesStore command.visit := by
  rcases command.visit_cases with ⟨reason, same, -⟩ | ⟨request, -, same, -⟩
  · rw [same]
    exact leavesStore_throw _
  · rw [same]
    exact leavesStore_writing request

theorem ControllerCommand.leavesStore_visit {command : ControllerCommand}
    (none : command.fetch? = none) (p : Presentation) (yes : Bool) :
    LeavesStore (command.visit p yes) := by
  cases command with
  | alarms command | events command | users command | sites command =>
      cases command with
      | list paging => cases none
      | get id => exact (leavesStore_ask _).bind fun _ => leavesStore_print p _
  | devices command =>
      cases command with
      | list filter paging => cases none
      | get | inspect | address => exact (leavesStore_ask _).bind fun _ => leavesStore_print p _
  | accessPoints command => exact command.leavesStore_visit p yes
  | stations command => exact command.leavesStore_visit p
  | raw command => exact command.leavesStore_visit

theorem ControllerCommand.addsFetched_visit {command : ControllerCommand} {fetch : Fetch}
    (lists : command.fetch? = some fetch) (p : Presentation) (yes : Bool) :
    AddsFetched fetch (command.visit p yes) := by
  cases command with
  | alarms command | events command | users command | sites command =>
      cases command with
      | get id => cases lists
      | list paging =>
          cases lists
          exact addsFetched_list _ _ _ p _
  | devices command =>
      cases command with
      | get | inspect | address => cases lists
      | list filter paging =>
          cases lists
          exact addsFetched_list _ _ _ p _
  | accessPoints | stations | raw => cases lists

/-! ## Runs -/

/-- What a run of a command that lists records fetches once it is logged in: the kind of the
records, and each of them as it is kept, under its id. -/
def ControllerCommand.fetched? (command : ControllerCommand) (options : Options)
    (config : Config) (scene : Scene) : Option (Resource × List (String × Json)) :=
  match command.fetch?, connection options config scene.environment scene.secrets scene.home with
  | some fetch, .ok wanted =>
      match wanted.client scene.files scene.wire with
      | .ok client =>
          let entry := Client.login wanted.username wanted.password
          match (entry >>= fun _ => fetch.records).run client with
          | (.ok records, _) => some (fetch.resource, records)
          | (.error _, _) => none
      | .error _ => none
  | _, _ => none

theorem ControllerCommand.fetched?_eq_none {command : ControllerCommand}
    (none : command.fetch? = none) (options : Options) (config : Config) (scene : Scene) :
    command.fetched? options config scene = .none := by
  rw [ControllerCommand.fetched?, none]

theorem ControllerCommand.fetched?_eq_some {command : ControllerCommand} {fetch : Fetch}
    (lists : command.fetch? = some fetch) {options : Options} {config : Config} {scene : Scene}
    {wanted : Connection} {client : Client}
    (resolved : connection options config scene.environment scene.secrets scene.home = .ok wanted)
    (built : wanted.client scene.files scene.wire = .ok client) {records : List (String × Json)}
    (fetched : ((Client.login wanted.username wanted.password >>= fun _ => fetch.records).run
      client).1 = .ok records) :
    command.fetched? options config scene = some (fetch.resource, records) := by
  rw [ControllerCommand.fetched?, lists, resolved]
  dsimp only
  rw [built]
  dsimp only
  rcases answered : (Client.login wanted.username wanted.password >>= fun _ => fetch.records).run
    client with ⟨result, after⟩
  rw [answered] at fetched
  cases fetched
  rfl

theorem ControllerCommand.keepable_of_fetched? {command : ControllerCommand} {options : Options}
    {config : Config} {scene : Scene} (integral : scene.wire.IsIntegral) {resource : Resource}
    {records : List (String × Json)}
    (fetched : command.fetched? options config scene = some (resource, records)) :
    ∀ record ∈ records, Keepable record.1 record.2 := by
  unfold ControllerCommand.fetched? at fetched
  split at fetched
  case h_2 => cases fetched
  case h_1 fetch wanted lists resolved =>
    split at fetched
    case h_2 => cases fetched
    case h_1 client built =>
      obtain ⟨session, rfl⟩ := Connection.client_eq_fresh built
      have yields := (Client.yields_login wanted.username wanted.password).bind
        fun _ _ => yields_fetch lists
      dsimp only at fetched
      rcases ran : (Client.login wanted.username wanted.password >>= fun _ => fetch.records).run
        (.fresh session scene.wire) with ⟨result, after⟩
      rw [ran] at fetched
      cases result with
      | error cause => cases fetched
      | ok found =>
          cases fetched
          refine (yields (.fresh session scene.wire) integral).2 records ?_
          rw [ran]

/-- A visit that succeeds has added what it fetched to the store, if one is open. -/
theorem visitController_store {wanted : Connection} {command : ControllerCommand}
    {p : Presentation} {yes : Bool} {visit : Visit}
    (succeeded : ((visitController wanted command p yes).run visit).1 = .ok ()) :
    (command.fetch? = none ∧
      ((visitController wanted command p yes).run visit).2.store = visit.store) ∨
    ∃ fetch records, command.fetch? = some fetch ∧
      ((Client.login wanted.username wanted.password >>= fun _ => fetch.records).run
        visit.client).1 = .ok records ∧
      ((visitController wanted command p yes).run visit).2.store =
        visit.store.map (·.withRecords fetch.resource.collection records) := by
  have entered := Operation.run_ending (Client.login wanted.username wanted.password) visit.client
  rcases ran : (Client.login wanted.username wanted.password).run visit.client with ⟨result, between⟩
  rw [ran] at entered
  have ended : ((Call.login wanted.username wanted.password).turn visit.client).result =
    result.map fun _ => () := congrArg Prod.fst entered
  have left : ((Call.login wanted.username wanted.password).turn visit.client).after = between :=
    congrArg Prod.snd entered
  rw [run_visitController] at succeeded ⊢
  dsimp only at succeeded ⊢
  rw [ended, left] at succeeded ⊢
  cases result with
  | error cause => cases succeeded
  | ok status =>
      change ((command.visit p yes).run { visit with client := between }).1 = .ok () at succeeded
      cases lists : command.fetch? with
      | none =>
          exact .inl ⟨rfl, ControllerCommand.leavesStore_visit lists p yes { visit with
            client := between }⟩
      | some fetch =>
          obtain ⟨records, fetched, stored⟩ := ControllerCommand.addsFetched_visit lists p yes
            { visit with client := between } succeeded
          refine .inr ⟨fetch, records, rfl, ?_, stored⟩
          rw [run_bind_ok ran]
          exact fetched

theorem ControllerCommand.run_unkept (command : ControllerCommand) (p : Presentation)
    {options : Options} {config : Config} (scene : Scene)
    (unkept : keepsRecords options config = false) :
    (command.run p options config scene).files = scene.files := by
  have opened : openStore options config scene = (scene.files, .ok none) := by
    rw [openStore, unkept]
    rfl
  have runs := command.runs p options config scene
  generalize command.run p options config scene = outcome at runs
  cases runs with
  | unresolved | unbuilt => rfl
  | unopened _ _ failed => cases opened.symm.trans failed
  | @visited wanted session files store result visit ready ran =>
      cases opened.symm.trans ready.opened
      cases result with
      | error failure => rfl
      | ok done =>
          have still : visit.store = none := by
            rcases visitController_store (congrArg Prod.fst ran) with
              ⟨-, stored⟩ | ⟨fetch, records, -, -, stored⟩
            all_goals
              rw [ran] at stored
              exact stored
          rw [Visit.outcome, still]
          rfl

theorem ControllerCommand.run_unopened (command : ControllerCommand) (p : Presentation)
    {options : Options} {config : Config} {scene : Scene}
    (keeps : keepsRecords options config = true) {files : Files} {cause : Store.Error}
    (failed : open? scene.files (storeDirectory options config scene.home) =
      (files, .error cause)) :
    ∃ failure, (command.run p options config scene).result = .error failure ∧
      ((command.run p options config scene).files = scene.files ∨
        (command.run p options config scene).files = files) := by
  have opened : openStore options config scene = (files, .error cause) := by
    rw [openStore, if_pos keeps, failed]
    rfl
  have runs := command.runs p options config scene
  generalize command.run p options config scene = outcome at runs
  cases runs with
  | unresolved | unbuilt => exact ⟨_, rfl, .inl rfl⟩
  | unopened _ _ again =>
      cases opened.symm.trans again
      exact ⟨_, rfl, .inr rfl⟩
  | visited ready _ => cases opened.symm.trans ready.opened

/-- A run that opens the store fails before it writes, or else writes the store with what it
fetched. -/
theorem ControllerCommand.run_opened (command : ControllerCommand) (p : Presentation)
    {options : Options} {config : Config} {scene : Scene}
    (keeps : keepsRecords options config = true) {opened : Files} {store : Store}
    (found : open? scene.files (storeDirectory options config scene.home) = (opened, .ok store)) :
    (∃ failure, (command.run p options config scene).result = .error failure ∧
      ((command.run p options config scene).files = scene.files ∨
        (command.run p options config scene).files = opened)) ∨
    ∃ after, (match command.fetched? options config scene with
        | none => after = store
        | some (resource, records) => after = store.withRecords resource.collection records) ∧
      (command.run p options config scene).files = (after.flush opened).1 ∧
      (command.run p options config scene).result =
        (after.flush opened).2.mapError Failure.ofStore := by
  have kept : openStore options config scene = (opened, .ok (some store)) := by
    rw [openStore, if_pos keeps, found]
    rfl
  have runs := command.runs p options config scene
  generalize command.run p options config scene = outcome at runs
  cases runs with
  | unresolved | unbuilt => exact .inl ⟨_, rfl, .inl rfl⟩
  | unopened _ _ failed => cases kept.symm.trans failed
  | @visited wanted session files held result visit ready ran =>
      cases kept.symm.trans ready.opened
      cases result with
      | error failure => exact .inl ⟨failure, rfl, .inr rfl⟩
      | ok done =>
          right
          have left : ∀ after, visit.store = some after →
              (visit.outcome opened (.ok done)).files = (after.flush opened).1 ∧
                (visit.outcome opened (.ok done)).result =
                  (after.flush opened).2.mapError Failure.ofStore := by
            intro after stored
            rw [Visit.outcome, stored]
            exact ⟨rfl, rfl⟩
          rcases visitController_store (congrArg Prod.fst ran) with
            ⟨lists, stored⟩ | ⟨fetch, records, lists, fetched, stored⟩
          · rw [ran] at stored
            rw [ControllerCommand.fetched?_eq_none lists]
            exact ⟨store, rfl, left store stored⟩
          · rw [ran] at stored
            rw [ControllerCommand.fetched?_eq_some lists ready.connection ready.client fetched]
            exact ⟨_, rfl, left _ stored⟩

end NetConsole.Console
