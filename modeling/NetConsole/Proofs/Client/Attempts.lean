import NetConsole.Proofs.Client.TokenLaw

/-!
# Which requests a call sets out to make

A call is refused out of hand, or it sets out to make one request. Only a change of a device record
goes on to a second one, and only once the first has brought the id of the device. No call makes a
request a second time, whatever became of it.
-/

set_option autoImplicit false

namespace NetConsole

open Stepwise

namespace Operation

variable {α β : Type}

/-- An operation sets out to make one request and no other. -/
def Tries (request : Request) (op : Operation α) : Prop :=
  ∀ before : Client, (op.run before).2.attempts = before.attempts ++ [request]

/-- An operation sets out to make no request. -/
def Rests (op : Operation α) : Prop :=
  ∀ before : Client, (op.run before).2.attempts = before.attempts

/-- An operation fails over an argument before it does anything. -/
def Refused (op : Operation α) : Prop :=
  ∃ cause : ClientError, cause.isLocal = true ∧ ∀ before, op.run before = (.error cause, before)

theorem rests_pure (value : α) : Rests (pure value : Operation α) := fun _ => rfl

theorem rests_throw (cause : ClientError) : Rests (throw cause : Operation α) := fun _ => rfl

theorem rests_liftM (result : Except ClientError α) : Rests (liftM result : Operation α) :=
  fun _ => rfl

theorem Rests.bind {op : Operation α} {next : α → Operation β} (one : Rests op)
    (two : ∀ value, Rests (next value)) : Rests (op >>= next) := by
  intro before
  rcases ran : op.run before with ⟨result, between⟩
  have rested := one before
  rw [ran] at rested
  cases result with
  | error cause =>
      rw [run_bind_error ran]
      exact rested
  | ok value =>
      rw [run_bind_ok ran, two value between]
      exact rested

theorem Tries.bind {request : Request} {op : Operation α} {next : α → Operation β}
    (one : Tries request op) (two : ∀ value, Rests (next value)) :
    Tries request (op >>= next) := by
  intro before
  rcases ran : op.run before with ⟨result, between⟩
  have tried := one before
  rw [ran] at tried
  cases result with
  | error cause =>
      rw [run_bind_error ran]
      exact tried
  | ok value =>
      rw [run_bind_ok ran, two value between]
      exact tried

theorem Tries.ending {request : Request} {op : Operation α} (tries : Tries request op) :
    Tries request (ending op) :=
  tries.bind fun _ => rests_pure ()

theorem refused_throw {cause : ClientError} (isLocal : cause.isLocal = true) :
    Refused (throw cause : Operation α) :=
  ⟨cause, isLocal, fun _ => rfl⟩

theorem Refused.bind {op : Operation α} (refused : Refused op) (next : α → Operation β) :
    Refused (op >>= next) := by
  obtain ⟨cause, isLocal, fails⟩ := refused
  exact ⟨cause, isLocal, fun before => run_bind_error (fails before)⟩

theorem Refused.ending {op : Operation α} (refused : Refused op) : Refused (ending op) :=
  refused.bind _

end Operation

namespace Client

open Operation

variable {α : Type} [Record α]

theorem tries_exchange (request : Request) : Tries request (exchange request) := by
  intro before
  rw [run_exchange]
  cases prepare before.session before.tokens request with
  | error cause => rfl
  | ok pair =>
      obtain ⟨url, sent⟩ := pair
      dsimp only
      rcases before.wire.transmit sent with ⟨delivery, wire⟩
      cases delivery <;> rfl

theorem tries_send (request : Request) : Tries request (send request) := by
  refine (tries_exchange request).bind fun pair => ?_
  dsimp only
  split
  · exact rests_pure _
  · exact rests_throw _

theorem tries_executeBytes (request : Request) : Tries request (executeBytes request) := by
  refine (tries_send request).bind fun answer => ?_
  split
  · exact rests_pure _
  · exact rests_throw _

theorem tries_executeShape (shape : Json.Shape) (request : Request) :
    Tries request (executeShape shape request) := by
  refine (tries_send request).bind fun answer => ?_
  split
  · exact (rests_liftM _).bind fun _ => rests_pure _
  · exact rests_throw _

theorem tries_execute (request : Request) : Tries request (execute request : Operation α) :=
  (tries_executeShape _ request).bind fun _ => rests_pure _

/-- The request for a list. -/
def listRequest (path : String) (paging : Option Paging) : Request :=
  { method := .get, path, query := Paging.pairs? paging }

theorem tries_list (path : String) (paging : Option Paging) :
    Tries (listRequest path paging) (list α path paging) := by
  refine (tries_executeShape _ _).bind fun pair => ?_
  dsimp only
  split
  · exact rests_pure _
  · exact rests_throw _

theorem tries_first (resource path identifier : String) :
    Tries (listRequest path none) (first α resource path identifier) := by
  refine (tries_list path none).bind fun records => ?_
  cases records with
  | nil => exact rests_throw _
  | cons record rest => exact rests_pure record

theorem requireMac_cases {β : Type} (mac : String) (next : Unit → Operation β) :
    Refused (requireMac mac >>= next) ∨ (requireMac mac >>= next) = next () := by
  unfold requireMac
  split
  · exact .inl (refused_throw rfl)
  · exact .inr rfl

/-- The request that sends a record. -/
def commandRequest (method : Method) (path : String) (body : α) : Request :=
  ({ method, path } : Request).withRecord body

/-- The request for an order to the device manager. -/
def deviceOrderRequest (action : DeviceAction) (mac : String) : Request :=
  commandRequest .post deviceManagerPath ({ action, mac } : DeviceOrder)

theorem orderDevice_cases (action : DeviceAction) (mac : String) :
    Refused (orderDevice action mac) ∨
      Tries (deviceOrderRequest action mac) (orderDevice action mac) := by
  rcases requireMac_cases mac fun _ => command .post deviceManagerPath
    ({ action, mac } : DeviceOrder) with refused | same
  · exact .inl refused
  · right
    rw [orderDevice, same]
    exact tries_execute _

/-- The request for an order to the station manager. -/
def stationOrderRequest (order : StationOrder) : Request :=
  commandRequest .post stationManagerPath order

theorem orderStation_cases (order : StationOrder) :
    Refused (orderStation order) ∨ Tries (stationOrderRequest order) (orderStation order) := by
  rcases requireMac_cases order.mac fun _ => command .post stationManagerPath order
    with refused | same
  · exact .inl refused
  · right
    rw [orderStation, same]
    exact tries_execute _

/-- The request for the device with an address. -/
def deviceRequest (mac : String) : Request := listRequest (devicesPath ++ "/" ++ mac) none

theorem getDeviceByMac_cases (mac : String) :
    Refused (getDeviceByMac mac) ∨ Tries (deviceRequest mac) (getDeviceByMac mac) := by
  rcases requireMac_cases mac (fun _ => first Device "device" (devicesPath ++ "/" ++ mac) mac)
    with refused | same
  · exact .inl refused
  · right
    rw [getDeviceByMac, same]
    exact tries_first _ _ _

theorem getDeviceByMac_bind_cases {β : Type} (mac : String) {next : Device → Operation β}
    (rests : ∀ device, Rests (next device)) :
    Refused (getDeviceByMac mac >>= next) ∨
      Tries (deviceRequest mac) (getDeviceByMac mac >>= next) := by
  rcases getDeviceByMac_cases mac with refused | tries
  · exact .inl (refused.bind _)
  · exact .inr (tries.bind rests)

theorem deviceId_cases (mac : String) :
    Refused (deviceId mac) ∨ Tries (deviceRequest mac) (deviceId mac) :=
  getDeviceByMac_bind_cases mac fun device => rests_pure device.id

theorem isLocating_cases (mac : String) :
    Refused (isLocating mac) ∨ Tries (deviceRequest mac) (isLocating mac) :=
  getDeviceByMac_bind_cases mac fun device => rests_pure device.locating

theorem deviceIp_cases (mac : String) :
    Refused (deviceIp mac) ∨ Tries (deviceRequest mac) (deviceIp mac) := by
  refine getDeviceByMac_bind_cases mac fun device => ?_
  split
  · exact rests_pure _
  · exact rests_throw _

/-- The request for a change of the device record with an id. -/
def changeRequest (id : String) (change : DeviceChange) : Request :=
  commandRequest .put (deviceRecordsPath ++ "/" ++ id) change

/-- A change of a device record is refused, or goes no further than looking the device up, or
goes on to one request for the change. -/
theorem changeDevice_attempts (mac : String) (change : DeviceChange) :
    Refused (changeDevice mac change) ∨ ∀ before : Client,
      ((changeDevice mac change).run before).2.attempts = before.attempts ++ [deviceRequest mac] ∨
      ∃ id, ((deviceId mac).run before).1 = .ok id ∧
        ((changeDevice mac change).run before).2.attempts =
          before.attempts ++ [deviceRequest mac, changeRequest id change] := by
  rcases deviceId_cases mac with refused | tries
  · exact .inl (refused.bind _)
  · right
    intro before
    have looked := tries before
    rcases ran : (deviceId mac).run before with ⟨result, between⟩
    rw [ran] at looked
    cases result with
    | error cause =>
        left
        rw [changeDevice, run_bind_error ran]
        exact looked
    | ok id =>
        right
        refine ⟨id, rfl, ?_⟩
        have changed : Tries (changeRequest id change)
            (command .put (deviceRecordsPath ++ "/" ++ id) change) := tries_execute _
        rw [changeDevice, run_bind_ok ran, changed between]
        dsimp only at looked
        rw [looked, List.append_assoc]
        rfl

theorem tries_login (username password : String) :
    Tries (loginRequest username password) (login username password) := by
  intro before
  have tried := tries_executeShape loginShape (loginRequest username password)
    { before with tokens := .empty }
  rw [run_login]
  rcases ran : (executeShape loginShape (loginRequest username password)).run
    { before with tokens := .empty } with ⟨result, after⟩
  rw [ran] at tried
  cases result with
  | error cause => exact tried
  | ok pair =>
      dsimp only
      cases missingToken after.tokens <;> exact tried

theorem tries_logout : Tries logoutRequest logout := by
  intro before
  have tried := tries_executeBytes logoutRequest before
  rw [run_logout]
  rcases ran : (executeBytes logoutRequest).run before with ⟨result, after⟩
  rw [ran] at tried
  cases result <;> exact tried

end Client

namespace Call

open Operation

/-- The change of a device record that a call asks for. -/
def change? : Call → Option (String × DeviceChange)
  | disableAp mac disabled => some (mac, { disabled := some disabled })
  | renameAp mac name => some (mac, { name := some name })
  | _ => none

/-- The requests that a call sets out to make on a client. -/
inductive Tries (call : Call) (before : Client) : List Request → Prop where
  /-- none, if the call is refused out of hand -/
  | refused {cause} : cause.isLocal = true → (call.turn before).result = .error cause →
      Tries call before []
  /-- one -/
  | one {request} : request.anonymous = call.isAccount → Tries call before [request]
  /-- a second one, which changes the device that the first one looked up -/
  | change {mac change id} : call.change? = some (mac, change) →
      ((Client.deviceId mac).run before).1 = .ok id →
      Tries call before [Client.deviceRequest mac, Client.changeRequest id change]

private theorem tries_of_refused {call : Call} (refused : Refused call.operation)
    (before : Client) : ∃ tried, call.Tries before tried ∧
      (call.turn before).after.attempts = before.attempts ++ tried := by
  obtain ⟨cause, isLocal, fails⟩ := refused
  refine ⟨[], .refused isLocal (congrArg Prod.fst (fails before)), ?_⟩
  rw [List.append_nil]
  exact congrArg (fun run => run.2.attempts) (fails before)

private theorem tries_of_tries {call : Call} {request : Request}
    (named : request.anonymous = call.isAccount) (tries : Operation.Tries request call.operation)
    (before : Client) : ∃ tried, call.Tries before tried ∧
      (call.turn before).after.attempts = before.attempts ++ tried :=
  ⟨[request], .one named, tries before⟩

private theorem tries_of_cases {call : Call} {request : Request}
    (named : request.anonymous = call.isAccount)
    (either : Refused call.operation ∨ Operation.Tries request call.operation) (before : Client) :
    ∃ tried, call.Tries before tried ∧
      (call.turn before).after.attempts = before.attempts ++ tried := by
  rcases either with refused | tries
  · exact tries_of_refused refused before
  · exact tries_of_tries named tries before

private theorem tries_of_change {call : Call} {mac : String} {change : DeviceChange}
    (asks : call.change? = some (mac, change)) (ordinary : call.isAccount = false)
    (same : call.operation = ending (Client.changeDevice mac change)) (before : Client) :
    ∃ tried, call.Tries before tried ∧
      (call.turn before).after.attempts = before.attempts ++ tried := by
  rcases Client.changeDevice_attempts mac change with refused | goes
  · exact tries_of_refused (by rw [same]; exact refused.ending) before
  · have left : (call.turn before).after = ((Client.changeDevice mac change).run before).2 := by
      change (call.operation.run before).2 = _
      rw [same, run_ending]
    rw [left]
    rcases goes before with short | ⟨id, found, long⟩
    · exact ⟨_, .one ordinary.symm, short⟩
    · exact ⟨_, .change asks found, long⟩

/-- What a call on any client sets out to do. -/
theorem exists_tries (call : Call) (before : Client) :
    ∃ tried, call.Tries before tried ∧
      (call.turn before).after.attempts = before.attempts ++ tried := by
  cases call with
  | login username password =>
      exact tries_of_tries rfl (Client.tries_login username password).ending before
  | logout => exact tries_of_tries rfl Client.tries_logout before
  | list α path paging => exact tries_of_tries rfl (Client.tries_list path paging).ending before
  | lookup α resource path id =>
      by_cases small : id < 1
      · refine tries_of_refused ?_ before
        rw [operation, Client.lookup, if_pos small]
        exact (refused_throw rfl).ending
      · have tries : Operation.Tries (Client.listRequest (path ++ "/" ++ toString id) none)
            (lookup α resource path id).operation := by
          rw [operation, Client.lookup, if_neg small]
          exact (Client.tries_first _ _ _).ending
        exact tries_of_tries rfl tries before
  | command α method path body => exact tries_of_tries rfl (Client.tries_execute _).ending before
  | listDevicesShort filter paging =>
      exact tries_of_tries rfl ((Client.tries_list _ _).bind fun _ => rests_pure _).ending before
  | getDeviceByMac mac =>
      exact tries_of_cases rfl ((Client.getDeviceByMac_cases mac).imp .ending .ending) before
  | deviceIp mac => exact tries_of_cases rfl ((Client.deviceIp_cases mac).imp .ending .ending) before
  | deviceId mac => exact tries_of_cases rfl ((Client.deviceId_cases mac).imp .ending .ending) before
  | isLocating mac =>
      exact tries_of_cases rfl ((Client.isLocating_cases mac).imp .ending .ending) before
  | setLocate mac enabled =>
      exact tries_of_cases rfl ((Client.orderDevice_cases _ mac).imp .ending .ending) before
  | restartAp mac =>
      exact tries_of_cases rfl ((Client.orderDevice_cases _ mac).imp .ending .ending) before
  | disableAp mac disabled => exact tries_of_change rfl rfl rfl before
  | renameAp mac name =>
      by_cases blank : Text.isBlankText name = true
      · refine tries_of_refused ?_ before
        rw [operation, Client.renameAp, if_pos blank]
        exact (refused_throw rfl).ending
      · refine tries_of_change rfl rfl ?_ before
        rw [operation, Client.renameAp, if_neg blank]
  | blockClient mac blocked =>
      exact tries_of_cases rfl ((Client.orderStation_cases _).imp .ending .ending) before
  | authorizeGuest mac limits =>
      exact tries_of_cases rfl ((Client.orderStation_cases _).imp .ending .ending) before
  | unauthorizeGuest mac =>
      exact tries_of_cases rfl ((Client.orderStation_cases _).imp .ending .ending) before
  | execute shape request =>
      exact tries_of_tries rfl (Client.tries_executeShape shape (worded request)).ending before
  | executeBytes request =>
      exact tries_of_tries rfl (Client.tries_executeBytes (worded request)).ending before
  | executeWriting request =>
      refine ⟨[worded request], .one rfl, ?_⟩
      have same := Client.executeWriting_eq_executeBytes (worded request) before
      have left : ((executeWriting request).turn before).after =
          ((ending (Client.executeBytes (worded request))).run before).2 := congrArg Prod.snd same
      rw [left]
      exact (Client.tries_executeBytes (worded request)).ending before

/-- What goes out during calls is what the calls set out to make, in the same order and as it was
worded, though not all of it need go out. -/
theorem words_clientAfter (calls : List Call) {client : Client} (proper : client.tokens.Proper) :
    ∃ news tried, (clientAfter calls client).wire.sent = client.wire.sent ++ news ∧
      (clientAfter calls client).attempts = client.attempts ++ tried ∧
      List.SublistForall₂ (·.Words client.session ·) news tried := by
  induction calls generalizing client with
  | nil => exact ⟨[], [], (List.append_nil _).symm, (List.append_nil _).symm, .nil⟩
  | cons call rest ih =>
      have follows := call.turn_follows proper
      have sent : (call.turn client).after.wire.sent = client.wire.sent ++ _ := follows.sent
      obtain ⟨tried, attempts, words⟩ := follows.worded
      have attempted : (call.turn client).after.attempts = client.attempts ++ tried := attempts
      obtain ⟨laterNews, laterTried, laterSent, laterAttempts, laterWords⟩ :=
        ih (follows.proper proper)
      rw [follows.session] at laterWords
      refine ⟨(call.turn client).news ++ laterNews, tried ++ laterTried, ?_, ?_,
        sublistForall₂_append words laterWords⟩
      · rw [← List.append_assoc, ← sent]
        exact laterSent
      · rw [← List.append_assoc, ← attempted]
        exact laterAttempts

end Call

end NetConsole
