import NetConsole.Proofs.Client.Exchange

/-!
# What operations do on the wire

Every operation that leaves resets to its caller only makes requests, one after another. `Makes`
says so of an operation, with the number of requests behind a success; `Refuses` says that an
operation stops short of the wire while no session token is held. Both are closed under what
operations are put together from, so each operation is dealt with once.
-/

set_option autoImplicit false

namespace NetConsole

open Stepwise Happening

/-- Causes that an operation finds before it sends anything: no session token is held, or an
argument or a path cannot be used. -/
def ClientError.isLocal : ClientError → Bool
  | .notLoggedIn | .invalidArgument _ _ | .invalidUrl _ => true
  | _ => false

/-- Causes that leave a request without an answer. -/
def ClientError.IsUnheard : ClientError → Prop
  | .notLoggedIn | .invalidUrl _ | .transport _ _ => True
  | _ => False

/-! ## Deliveries -/

/-- The cookies that come with a delivery. -/
def Delivery.brings : Delivery → List Happening
  | .answer a => [.cookies a.cookies]
  | _ => []

theorem Wire.arriving_cookies (method : Method) (answer : Answer) :
    (Wire.arriving method answer).cookies = answer.cookies := by
  unfold Wire.arriving
  split <;> rfl

/-- A request either stays where it is or goes out and uses up the reply that was waiting. -/
theorem Wire.transmit_cases (wire : Wire) (sent : Sent) :
    wire.transmit sent = (.unreachable, wire) ∨
      ∃ delivery : Delivery, wire.transmit sent = (delivery, { wire with
        replies := wire.replies.drop 1, sent := wire.sent ++ [sent] }) ∧
        delivery.brings = arrived wire.replies.head? := by
  unfold Wire.transmit
  by_cases reached : wire.reaches sent.url = true
  · right
    rw [reached]
    cases waiting : wire.replies with
    | nil => exact ⟨.dropped, rfl, rfl⟩
    | cons reply rest =>
        cases reply with
        | answer answer =>
            refine ⟨_, rfl, ?_⟩
            simp only [Delivery.brings, arrived, List.head?_cons, Wire.arriving_cookies]
        | dropped => exact ⟨.dropped, rfl, rfl⟩
        | silent => exact ⟨.timedOut, rfl, rfl⟩
  · left
    rw [Bool.not_eq_true] at reached
    rw [reached]
    rfl

theorem Session.invalidUrl_of_resolve {session : Session} {path : String} {cause : ClientError}
    (failed : session.resolve path = .error cause) : ∃ reason, cause = .invalidUrl reason := by
  unfold Session.resolve at failed
  dsimp only at failed
  split at failed
  · cases failed
  · cases failed
    exact ⟨_, rfl⟩

namespace Operation

variable {α β : Type}

/-! ## Making requests -/

/-- An operation only makes requests, under a session token if they are guarded, and so many of
them if it succeeds. -/
def Makes (guarded : Bool) (count : Nat) (op : Operation α) : Prop :=
  ∀ before : Client, before.tokens.Proper →
    ∃ news, Advances guarded before (op.run before).2 news ∧
      ∀ value, (op.run before).1 = .ok value → news.length = count

theorem makes_pure (guarded : Bool) (value : α) : Makes guarded 0 (pure value : Operation α) :=
  fun before _ => ⟨[], Advances.refl guarded before, fun _ _ => rfl⟩

theorem makes_throw (guarded : Bool) (count : Nat) (cause : ClientError) :
    Makes guarded count (throw cause : Operation α) :=
  fun before _ => ⟨[], Advances.refl guarded before, fun _ ok => nomatch ok⟩

theorem makes_liftM (guarded : Bool) (result : Except ClientError α) :
    Makes guarded 0 (liftM result : Operation α) :=
  fun before _ => ⟨[], Advances.refl guarded before, fun _ _ => rfl⟩

theorem Makes.bind {guarded : Bool} {first second : Nat} {op : Operation α}
    {next : α → Operation β} (one : Makes guarded first op)
    (two : ∀ value, Makes guarded second (next value)) :
    Makes guarded (first + second) (op >>= next) := by
  intro before proper
  obtain ⟨news, advances, counted⟩ := one before proper
  rcases ran : op.run before with ⟨result, between⟩
  rw [ran] at advances counted
  cases result with
  | error cause =>
      rw [run_bind_error ran]
      exact ⟨news, advances, fun _ ok => nomatch ok⟩
  | ok value =>
      rw [run_bind_ok ran]
      obtain ⟨more, further, countedMore⟩ := two value between (advances.proper proper)
      refine ⟨news ++ more, advances.trans further, fun final ok => ?_⟩
      rw [List.length_append, counted value rfl, countedMore final ok]

/-- What follows the last request of an operation does not count. -/
theorem Makes.bind_still {guarded : Bool} {count : Nat} {op : Operation α}
    {next : α → Operation β} (one : Makes guarded count op)
    (two : ∀ value, Makes guarded 0 (next value)) : Makes guarded count (op >>= next) :=
  one.bind two

theorem Makes.ending {guarded : Bool} {count : Nat} {op : Operation α}
    (makes : Makes guarded count op) : Makes guarded count (ending op) :=
  makes.bind_still fun _ => makes_pure guarded ()

/-! ## Refusing without a session -/

/-- An operation stops short of the wire while no session token is held, and says why. -/
def Refuses (op : Operation α) : Prop :=
  ∀ before : Client, before.tokens.hasSession = false →
    ∃ cause, cause.isLocal = true ∧ (op.run before).1 = .error cause ∧
      (op.run before).2.wire = before.wire ∧ (op.run before).2.tokens = before.tokens

theorem refuses_throw {cause : ClientError} (isLocal : cause.isLocal = true) :
    Refuses (throw cause : Operation α) :=
  fun _ _ => ⟨cause, isLocal, rfl, rfl, rfl⟩

theorem Refuses.bind {op : Operation α} (refuses : Refuses op) (next : α → Operation β) :
    Refuses (op >>= next) := by
  intro before none
  obtain ⟨cause, isLocal, failed, wire, tokens⟩ := refuses before none
  have ran : op.run before = (.error cause, (op.run before).2) := Prod.ext failed rfl
  rw [run_bind_error ran]
  exact ⟨cause, isLocal, rfl, wire, tokens⟩

theorem Refuses.ending {op : Operation α} (refuses : Refuses op) : Refuses (ending op) :=
  refuses.bind _

/-! ## Finding no fault with a login -/

/-- An operation does not fail for want of a token that should have been issued. -/
def Spares (op : Operation α) : Prop :=
  ∀ (before : Client) (message : String), (op.run before).1 ≠ .error (.authentication message)

theorem Spares.bind {op : Operation α} {next : α → Operation β} (one : Spares op)
    (two : ∀ value, Spares (next value)) : Spares (op >>= next) := by
  intro before message
  rcases ran : op.run before with ⟨result, between⟩
  cases result with
  | error cause =>
      rw [run_bind_error ran]
      intro same
      cases same
      exact one before message (by rw [ran])
  | ok value =>
      rw [run_bind_ok ran]
      exact two value between message

end Operation

namespace Client

open Operation

variable {α : Type} [Record α]

/-! ## One request -/

private theorem advances_of_sent {guarded : Bool} {before after : Client} {sent : Sent}
    {request : Request}
    (session : after.session = before.session)
    (wire : after.wire = { before.wire with
      replies := before.wire.replies.drop 1, sent := before.wire.sent ++ [sent] })
    (tokens : after.tokens = before.tokens.after (arrived before.wire.replies.head?))
    (bears : sent.Bears before.tokens)
    (allowed : guarded = true → before.tokens.hasSession = true)
    (attempts : after.attempts = before.attempts ++ [request])
    (words : sent.Words before.session request) : Advances guarded before after [sent] := by
  constructor
  · exact session
  · rw [wire]
  · rw [wire]
  · rw [wire]
    rfl
  · rw [tokens, exchanges, exchanges, List.append_nil]
    rfl
  · refine ⟨fun other same => ?_, ?_⟩
    · cases same
      exact ⟨bears, allowed⟩
    · rw [exchanges, List.append_nil]
      exact Borne.of_arrived guarded before.tokens before.wire.replies.head?
  · exact ⟨[request], attempts, .cons words .nil⟩

theorem prepare_isLocal {tokens : Tokens} {request : Request} (session : Session)
    (named : request.anonymous = false) (none : tokens.hasSession = false) :
    ∃ cause, cause.isLocal = true ∧ prepare session tokens request = .error cause := by
  cases resolved : session.resolve request.path with
  | error cause =>
      obtain ⟨reason, rfl⟩ := Session.invalidUrl_of_resolve resolved
      refine ⟨.invalidUrl reason, rfl, ?_⟩
      rw [prepare, resolved]
      rfl
  | ok url =>
      refine ⟨.notLoggedIn, rfl, ?_⟩
      rw [prepare, resolved, named, none]
      rfl

theorem isUnheard_of_outgoing {session : Session} {tokens : Tokens} {request : Request}
    {url : Url} {cause : ClientError} (failed : outgoing session tokens request url = .error cause) :
    cause.IsUnheard := by
  unfold outgoing at failed
  dsimp only at failed
  split at failed
  · cases failed
    trivial
  · split at failed
    · cases failed
      trivial
    · split at failed
      · cases failed
        trivial
      · cases failed

theorem isUnheard_of_prepare {session : Session} {tokens : Tokens} {request : Request}
    {cause : ClientError} (failed : prepare session tokens request = .error cause) : cause.IsUnheard := by
  simp only [prepare, bind, Except.bind, pure, Except.pure] at failed
  cases resolved : session.resolve request.path with
  | error other =>
      rw [resolved] at failed
      cases failed
      obtain ⟨reason, rfl⟩ := Session.invalidUrl_of_resolve resolved
      trivial
  | ok url =>
      rw [resolved] at failed
      dsimp only at failed
      split at failed
      · cases failed
        trivial
      · cases goes : outgoing session tokens request url with
        | error other =>
            rw [goes] at failed
            cases failed
            exact isUnheard_of_outgoing goes
        | ok sent =>
            rw [goes] at failed
            cases failed

theorem isUnheard_of_exchange {request : Request} {client : Client} {cause : ClientError}
    (failed : ((exchange request).run client).1 = .error cause) : cause.IsUnheard := by
  rw [run_exchange] at failed
  cases prepared : prepare client.session client.tokens request with
  | error other =>
      rw [prepared] at failed
      cases failed
      exact isUnheard_of_prepare prepared
  | ok pair =>
      obtain ⟨url, sent⟩ := pair
      rw [prepared] at failed
      dsimp only at failed
      rcases ran : client.wire.transmit sent with ⟨delivery, wire⟩
      rw [ran] at failed
      cases delivery with
      | answer heard => cases failed
      | unreachable | dropped | timedOut =>
          cases failed
          trivial

/-- The one place where requests go out: at most one does, and it does if there is an answer. -/
theorem makes_exchange {guarded : Bool} {request : Request}
    (named : guarded = true → request.anonymous = false) :
    Makes guarded 1 (exchange request) := by
  intro before proper
  rw [run_exchange]
  cases prepared : prepare before.session before.tokens request with
  | error cause => exact ⟨[], Advances.of_unsent [request] rfl rfl rfl rfl, fun _ ok => nomatch ok⟩
  | ok pair =>
      obtain ⟨url, sent⟩ := pair
      obtain ⟨needed, resolved, goes⟩ := prepare_eq_ok prepared
      have words := outgoing_words resolved goes
      have bears := outgoing_bears proper goes
      have allowed : guarded = true → before.tokens.hasSession = true :=
        fun isGuarded => needed (named isGuarded)
      rcases before.wire.transmit_cases sent with stays | ⟨delivery, goesOut, brings⟩
      · simp only [stays]
        exact ⟨[], Advances.of_unsent [request] rfl rfl rfl rfl, fun _ ok => nomatch ok⟩
      · simp only [goesOut]
        cases delivery with
        | answer answer =>
            refine ⟨[sent], advances_of_sent rfl rfl ?_ bears allowed rfl words, fun _ _ => rfl⟩
            rw [← brings]
            rfl
        | unreachable | dropped | timedOut =>
            refine ⟨[sent], advances_of_sent rfl rfl ?_ bears allowed rfl words,
              fun _ ok => nomatch ok⟩
            rw [← brings]
            rfl

/-- Without a session token a request that is not anonymous gets no further than its path. -/
theorem refuses_exchange {request : Request} (named : request.anonymous = false) :
    Refuses (exchange request) := by
  intro before none
  obtain ⟨cause, isLocal, failed⟩ := prepare_isLocal before.session named none
  rw [run_exchange, failed]
  exact ⟨cause, isLocal, rfl, rfl, rfl⟩

theorem spares_exchange (request : Request) : Spares (exchange request) := by
  intro before message failed
  exact isUnheard_of_exchange failed

theorem spares_executeShape (shape : Json.Shape) (request : Request) :
    Spares (executeShape shape request) := by
  have sends : Spares (send request) := by
    refine (spares_exchange request).bind fun pair => ?_
    dsimp only
    split <;> exact fun _ _ same => nomatch same
  have decodes (text : String) :
      Spares (liftM (decodeBody shape text) : Operation Json) := by
    intro before message
    unfold decodeBody
    split <;> exact fun same => nomatch same
  refine sends.bind fun answer => ?_
  split
  · exact (decodes _).bind fun _ _ _ same => nomatch same
  · exact fun _ _ same => nomatch same

/-! ## The operations

Each makes requests one after another, and none without a session token unless they are anonymous.
-/

theorem makes_send {guarded : Bool} {request : Request}
    (named : guarded = true → request.anonymous = false) : Makes guarded 1 (send request) := by
  refine (makes_exchange named).bind_still fun pair => ?_
  dsimp only
  split
  · exact makes_pure guarded _
  · exact makes_throw guarded 0 _

theorem refuses_send {request : Request} (named : request.anonymous = false) :
    Refuses (send request) :=
  (refuses_exchange named).bind _

theorem makes_executeBytes {guarded : Bool} {request : Request}
    (named : guarded = true → request.anonymous = false) :
    Makes guarded 1 (executeBytes request) := by
  refine (makes_send named).bind_still fun answer => ?_
  split
  · exact makes_pure guarded _
  · exact makes_throw guarded 0 _

theorem refuses_executeBytes {request : Request} (named : request.anonymous = false) :
    Refuses (executeBytes request) :=
  (refuses_send named).bind _

theorem makes_executeShape {guarded : Bool} {request : Request} (shape : Json.Shape)
    (named : guarded = true → request.anonymous = false) :
    Makes guarded 1 (executeShape shape request) := by
  refine (makes_send named).bind_still fun answer => ?_
  split
  · exact (makes_liftM guarded _).bind_still fun value => makes_pure guarded _
  · exact makes_throw guarded 0 _

theorem refuses_executeShape {request : Request} (shape : Json.Shape)
    (named : request.anonymous = false) : Refuses (executeShape shape request) :=
  (refuses_send named).bind _

theorem makes_execute {guarded : Bool} {request : Request}
    (named : guarded = true → request.anonymous = false) :
    Makes guarded 1 (execute request : Operation α) :=
  (makes_executeShape _ named).bind_still fun _ => makes_pure guarded _

theorem refuses_execute {request : Request} (named : request.anonymous = false) :
    Refuses (execute request : Operation α) :=
  (refuses_executeShape _ named).bind _

theorem makes_list (path : String) (paging : Option Paging) :
    Makes true 1 (list α path paging) := by
  refine (makes_executeShape _ fun _ => rfl).bind_still fun pair => ?_
  dsimp only
  split
  · exact makes_pure true _
  · exact makes_throw true 0 _

theorem refuses_list (path : String) (paging : Option Paging) : Refuses (list α path paging) :=
  (refuses_executeShape _ rfl).bind _

theorem makes_first (resource path identifier : String) :
    Makes true 1 (first α resource path identifier) := by
  refine (makes_list path none).bind_still fun records => ?_
  cases records with
  | nil => exact makes_throw true 0 _
  | cons record rest => exact makes_pure true record

theorem refuses_first (resource path identifier : String) :
    Refuses (first α resource path identifier) :=
  (refuses_list path none).bind _

theorem makes_lookup (resource path : String) (id : Int) :
    Makes true 1 (lookup α resource path id) := by
  by_cases small : id < 1
  · rw [lookup, if_pos small]
    exact makes_throw true 1 _
  · rw [lookup, if_neg small]
    exact makes_first resource _ _

theorem refuses_lookup (resource path : String) (id : Int) :
    Refuses (lookup α resource path id) := by
  by_cases small : id < 1
  · rw [lookup, if_pos small]
    exact refuses_throw rfl
  · rw [lookup, if_neg small]
    exact refuses_first resource _ _

theorem makes_listDevicesShort (filter : DeviceFilter) (paging : Option Paging) :
    Makes true 1 (listDevicesShort filter paging) :=
  (makes_list devicesPath paging).bind_still fun _ => makes_pure true _

theorem refuses_listDevicesShort (filter : DeviceFilter) (paging : Option Paging) :
    Refuses (listDevicesShort filter paging) :=
  (refuses_list devicesPath paging).bind _

theorem makes_requireMac {β : Type} {count : Nat} {next : Unit → Operation β} (mac : String)
    (makes : Makes true count (next ())) : Makes true count (requireMac mac >>= next) := by
  unfold requireMac
  split
  · exact makes_throw true count _
  · exact makes

theorem refuses_requireMac {β : Type} {next : Unit → Operation β} (mac : String)
    (refuses : Refuses (next ())) : Refuses (requireMac mac >>= next) := by
  unfold requireMac
  split
  · exact refuses_throw rfl
  · exact refuses

theorem makes_getDeviceByMac (mac : String) : Makes true 1 (getDeviceByMac mac) :=
  makes_requireMac mac (makes_first _ _ _)

theorem refuses_getDeviceByMac (mac : String) : Refuses (getDeviceByMac mac) :=
  refuses_requireMac mac (refuses_first _ _ _)

theorem makes_deviceIp (mac : String) : Makes true 1 (deviceIp mac) := by
  refine (makes_getDeviceByMac mac).bind_still fun device => ?_
  split
  · exact makes_pure true _
  · exact makes_throw true 0 _

theorem makes_deviceId (mac : String) : Makes true 1 (deviceId mac) :=
  (makes_getDeviceByMac mac).bind_still fun _ => makes_pure true _

theorem makes_isLocating (mac : String) : Makes true 1 (isLocating mac) :=
  (makes_getDeviceByMac mac).bind_still fun _ => makes_pure true _

theorem makes_command {β : Type} [Record β] (method : Method) (path : String) (body : β) :
    Makes true 1 (command method path body) :=
  makes_execute fun _ => rfl

theorem refuses_command {β : Type} [Record β] (method : Method) (path : String) (body : β) :
    Refuses (command method path body) :=
  refuses_execute rfl

theorem makes_orderDevice (action : DeviceAction) (mac : String) :
    Makes true 1 (orderDevice action mac) :=
  makes_requireMac mac (makes_command _ _ _)

theorem refuses_orderDevice (action : DeviceAction) (mac : String) :
    Refuses (orderDevice action mac) :=
  refuses_requireMac mac (refuses_command _ _ _)

theorem makes_changeDevice (mac : String) (change : DeviceChange) :
    Makes true 2 (changeDevice mac change) :=
  (makes_deviceId mac).bind fun _ => makes_command _ _ _

theorem refuses_changeDevice (mac : String) (change : DeviceChange) :
    Refuses (changeDevice mac change) :=
  ((refuses_getDeviceByMac mac).bind _).bind _

theorem makes_renameAp (mac name : String) : Makes true 2 (renameAp mac name) := by
  unfold renameAp
  split
  · exact makes_throw true 2 _
  · exact makes_changeDevice mac _

theorem refuses_renameAp (mac name : String) : Refuses (renameAp mac name) := by
  unfold renameAp
  split
  · exact refuses_throw rfl
  · exact refuses_changeDevice mac _

theorem makes_orderStation (order : StationOrder) : Makes true 1 (orderStation order) :=
  makes_requireMac order.mac (makes_command _ _ _)

theorem refuses_orderStation (order : StationOrder) : Refuses (orderStation order) :=
  refuses_requireMac order.mac (refuses_command _ _ _)

end Client

end NetConsole
