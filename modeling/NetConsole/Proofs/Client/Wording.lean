import NetConsole.Proofs.Client.Attempts

/-!
# How calls word their requests

Every request that a call sets out to make is worded by one of a few constructors, from what the
call was given. What holds of those holds of all that the call asks for.
-/

set_option autoImplicit false

namespace NetConsole

/-! ## What operations ask for -/

namespace Operation

variable {α β : Type}

/-- Every request that an operation sets out to make has a property. -/
def Asks (property : Request → Prop) (op : Operation α) : Prop :=
  ∀ before : Client, ∃ tried, (op.run before).2.attempts = before.attempts ++ tried ∧
    ∀ request ∈ tried, property request

variable {property : Request → Prop}

theorem Tries.asks {request : Request} {op : Operation α} (tries : Tries request op)
    (holds : property request) : Asks property op := by
  intro before
  refine ⟨[request], tries before, fun other member => ?_⟩
  rw [List.mem_singleton.mp member]
  exact holds

theorem Refused.asks {op : Operation α} (refused : Refused op) : Asks property op := by
  obtain ⟨cause, -, fails⟩ := refused
  intro before
  refine ⟨[], ?_, fun _ member => absurd member List.not_mem_nil⟩
  rw [List.append_nil]
  exact congrArg (fun run => run.2.attempts) (fails before)

theorem asks_of_cases {request : Request} {op : Operation α}
    (either : Refused op ∨ Tries request op) (holds : property request) : Asks property op := by
  rcases either with refused | tries
  · exact refused.asks
  · exact tries.asks holds

theorem Tries.asks_it {request : Request} {op : Operation α} (tries : Tries request op) :
    Asks (· = request) op :=
  tries.asks rfl

theorem asks_it_of_cases {request : Request} {op : Operation α}
    (either : Refused op ∨ Tries request op) : Asks (· = request) op :=
  asks_of_cases either rfl

theorem Asks.ending {op : Operation α} (asks : Asks property op) :
    Asks property (ending op) := by
  intro before
  obtain ⟨tried, attempts, hold⟩ := asks before
  refine ⟨tried, ?_, hold⟩
  rw [run_ending]
  exact attempts

theorem asks_changeDevice {mac : String} {change : DeviceChange}
    (looks : property (Client.deviceRequest mac))
    (changes : ∀ id, property (Client.changeRequest id change)) :
    Asks property (Client.changeDevice mac change) := by
  rcases Client.changeDevice_attempts mac change with refused | goes
  · exact refused.asks
  · intro before
    rcases goes before with short | ⟨id, -, long⟩
    · refine ⟨_, short, fun request member => ?_⟩
      rw [List.mem_singleton.mp member]
      exact looks
    · refine ⟨_, long, fun request member => ?_⟩
      rcases List.mem_cons.mp member with rfl | second
      · exact looks
      · rw [List.mem_singleton.mp second]
        exact changes id

theorem Asks.mono {other : Request → Prop} {op : Operation α} (asks : Asks property op)
    (weaker : ∀ request, property request → other request) : Asks other op := by
  intro before
  obtain ⟨tried, attempts, hold⟩ := asks before
  exact ⟨tried, attempts, fun request member => weaker request (hold request member)⟩

end Operation

namespace Call

open Operation

/-- The requests of a change of a device record: for the device, and then for the change. -/
def OfChange (mac : String) (change : DeviceChange) (request : Request) : Prop :=
  request = Client.deviceRequest mac ∨ ∃ id, request = Client.changeRequest id change

/-- The requests that a call may set out to make. -/
def MayAsk : Call → Request → Prop
  | login username password => (· = Client.loginRequest username password)
  | logout => (· = Client.logoutRequest)
  | list _ path paging => (· = Client.listRequest path paging)
  | lookup _ _ path id => (· = Client.listRequest (path ++ "/" ++ toString id) none)
  | command _ method path body => (· = Client.commandRequest method path body)
  | listDevicesShort _ paging => (· = Client.listRequest Client.devicesPath paging)
  | getDeviceByMac mac | deviceIp mac | deviceId mac | isLocating mac =>
      (· = Client.deviceRequest mac)
  | setLocate mac enabled =>
      (· = Client.deviceOrderRequest (if enabled then .startLocating else .stopLocating) mac)
  | restartAp mac => (· = Client.deviceOrderRequest .restart mac)
  | disableAp mac disabled => OfChange mac { disabled := some disabled }
  | renameAp mac name => OfChange mac { name := some name }
  | blockClient mac blocked =>
      (· = Client.stationOrderRequest { action := if blocked then .block else .unblock, mac })
  | authorizeGuest mac limits =>
      (· = Client.stationOrderRequest { action := .authorizeGuest, mac, limits })
  | unauthorizeGuest mac => (· = Client.stationOrderRequest { action := .unauthorizeGuest, mac })
  | execute _ request | executeBytes request | executeWriting request => (· = worded request)

theorem asks_ofChange (mac : String) (change : DeviceChange) :
    Asks (OfChange mac change) (Client.changeDevice mac change) :=
  asks_changeDevice (.inl rfl) fun id => .inr ⟨id, rfl⟩

/-- No call asks for anything else. -/
theorem asks_operation (call : Call) : Asks call.MayAsk call.operation := by
  cases call with
  | login username password => exact (Client.tries_login username password).asks_it.ending
  | logout => exact Client.tries_logout.asks_it
  | list α path paging => exact (Client.tries_list path paging).asks_it.ending
  | lookup α resource path id =>
      by_cases small : id < 1
      · refine Asks.ending (Refused.asks ?_)
        rw [Client.lookup, if_pos small]
        exact refused_throw rfl
      · rw [operation, Client.lookup, if_neg small]
        exact (Client.tries_first _ _ _).asks_it.ending
  | command α method path body => exact (Client.tries_execute _).asks_it.ending
  | listDevicesShort filter paging =>
      exact ((Client.tries_list _ paging).bind fun _ => rests_pure _).asks_it.ending
  | getDeviceByMac mac => exact (asks_it_of_cases (Client.getDeviceByMac_cases mac)).ending
  | deviceIp mac => exact (asks_it_of_cases (Client.deviceIp_cases mac)).ending
  | deviceId mac => exact (asks_it_of_cases (Client.deviceId_cases mac)).ending
  | isLocating mac => exact (asks_it_of_cases (Client.isLocating_cases mac)).ending
  | setLocate mac enabled => exact (asks_it_of_cases (Client.orderDevice_cases _ mac)).ending
  | restartAp mac => exact (asks_it_of_cases (Client.orderDevice_cases _ mac)).ending
  | disableAp mac disabled => exact (asks_ofChange mac _).ending
  | renameAp mac name =>
      by_cases blank : Text.isBlankText name = true
      · refine Asks.ending (Refused.asks ?_)
        rw [Client.renameAp, if_pos blank]
        exact (refused_throw rfl).bind _
      · rw [operation, Client.renameAp, if_neg blank]
        exact (asks_ofChange mac _).ending
  | blockClient | authorizeGuest | unauthorizeGuest =>
      exact (asks_it_of_cases (Client.orderStation_cases _)).ending
  | execute shape request => exact (Client.tries_executeShape shape (worded request)).asks_it.ending
  | executeBytes request => exact (Client.tries_executeBytes (worded request)).asks_it.ending
  | executeWriting request =>
      intro before
      have same := Client.executeWriting_eq_executeBytes (worded request) before
      obtain ⟨tried, attempts, asked⟩ :=
        (Client.tries_executeBytes (worded request)).asks_it.ending before
      refine ⟨tried, ?_, asked⟩
      rw [← attempts]
      exact congrArg (fun run => run.2.attempts) same

variable {property : Request → Prop}

/-- What holds of all that calls may ask for holds of all that they set out to make. -/
theorem asks_clientAfter (calls : List Call)
    (holds : ∀ call ∈ calls, ∀ request, call.MayAsk request → property request)
    (client : Client) : ∃ tried, (clientAfter calls client).attempts = client.attempts ++ tried ∧
      ∀ request ∈ tried, property request := by
  induction calls generalizing client with
  | nil => exact ⟨[], (List.append_nil _).symm, fun _ member => absurd member List.not_mem_nil⟩
  | cons call rest ih =>
      obtain ⟨now, attempts, asked⟩ :=
        (asks_operation call).mono (holds call List.mem_cons_self) client
      obtain ⟨later, laterAttempts, laterAsked⟩ :=
        ih (fun other member => holds other (List.mem_cons_of_mem call member))
          (call.turn client).after
      refine ⟨now ++ later, ?_, fun request member => ?_⟩
      · change (clientAfter rest (call.turn client).after).attempts = _
        rw [laterAttempts, ← List.append_assoc, ← attempts]
        rfl
      · rcases List.mem_append.mp member with first | second
        · exact asked request first
        · exact laterAsked request second

end Call

end NetConsole
