import NetConsole.Proofs.Client.Composed
import NetConsole.Proofs.Client.Operation

/-!
# Clients that logged in with different passwords

Two clients that differ in what they did at some time in the past go on alike: the same operation
has the same result and adds the same requests to what went before. A login with another password
leaves such clients, since nothing but the body of its one request tells the passwords apart.
-/

set_option autoImplicit false

namespace NetConsole

open Stepwise Operation

/-- What a client has set out to do, and what went out. -/
structure Past where
  attempts : List Request
  sent : List Sent

/-- What a client did so far. -/
def Client.past (client : Client) : Past := ⟨client.attempts, client.wire.sent⟩

/-- A request with the credentials of a user for its body. -/
def Sent.bearing (login : Sent) (username password : String) : Sent :=
  { login with body := Text.bytes (Client.credentials username password).compact }

/-- Two pasts that part at a login with one password or another. If the login went out, it did so
with the same method, address and headers. -/
inductive Past.Apart (username one two : String) (start : Past) : Past → Past → Prop where
  | unsent : Apart username one two start
      ⟨start.attempts ++ [Client.loginRequest username one], start.sent⟩
      ⟨start.attempts ++ [Client.loginRequest username two], start.sent⟩
  | sent (login : Sent) : Apart username one two start
      ⟨start.attempts ++ [Client.loginRequest username one],
        start.sent ++ [login.bearing username one]⟩
      ⟨start.attempts ++ [Client.loginRequest username two],
        start.sent ++ [login.bearing username two]⟩

/-- Pasts that are the same, or that part at a login at most and go on alike after it. -/
inductive Past.SameButPassword : Past → Past → Prop where
  | same (past : Past) : SameButPassword past past
  | login {username one two : String} {start before other : Past} :
      Past.Apart username one two start before other →
      ∀ (tried : List Request) (news : List Sent), SameButPassword
        ⟨before.attempts ++ tried, before.sent ++ news⟩
        ⟨other.attempts ++ tried, other.sent ++ news⟩

namespace Wire

/-- Wires are alike but for what went out. -/
structure Alike (one two : Wire) : Prop where
  reaches : one.reaches = two.reaches
  replies : one.replies = two.replies

/-- What comes of a request depends on the place that it goes to and on its method. -/
theorem transmit_alike {one two : Wire} (alike : one.Alike two) {first second : Sent}
    (url : first.url = second.url) (method : first.method = second.method) :
    ∃ delivery afterOne afterTwo, one.transmit first = (delivery, afterOne) ∧
      two.transmit second = (delivery, afterTwo) ∧ afterOne.Alike afterTwo ∧
      (afterOne.sent = one.sent ∧ afterTwo.sent = two.sent ∨
        afterOne.sent = one.sent ++ [first] ∧ afterTwo.sent = two.sent ++ [second]) := by
  obtain ⟨reaches, replies, sent⟩ := one
  obtain ⟨_, _, other⟩ := two
  obtain ⟨rfl, rfl⟩ := alike
  unfold transmit
  dsimp only
  rw [url, method]
  by_cases unreached : (!reaches second.url) = true
  · rw [if_pos unreached, if_pos unreached]
    exact ⟨_, _, _, rfl, rfl, ⟨rfl, rfl⟩, .inl ⟨rfl, rfl⟩⟩
  · rw [if_neg unreached, if_neg unreached]
    rcases replies with _ | ⟨_ | _ | _, rest⟩ <;>
      exact ⟨_, _, _, rfl, rfl, ⟨rfl, rfl⟩, .inr ⟨rfl, rfl⟩⟩

end Wire

namespace Client

/-- Clients that are alike but for what they did up to some point: one has one past, and the other
another. -/
structure Twins (before other : Past) (one two : Client) : Prop where
  session : one.session = two.session
  tokens : one.tokens = two.tokens
  wire : one.wire.Alike two.wire
  attempts : ∃ tried, one.attempts = before.attempts ++ tried ∧
    two.attempts = other.attempts ++ tried
  sent : ∃ news, one.wire.sent = before.sent ++ news ∧ two.wire.sent = other.sent ++ news

theorem Twins.sameButPassword {username first second : String} {start before other : Past}
    {one two : Client} (apart : Past.Apart username first second start before other)
    (twins : Twins before other one two) : Past.SameButPassword one.past two.past := by
  obtain ⟨tried, triedOne, triedTwo⟩ := twins.attempts
  obtain ⟨news, sentOne, sentTwo⟩ := twins.sent
  unfold past
  rw [triedOne, triedTwo, sentOne, sentTwo]
  exact .login apart tried news

/-! ## Exchanges -/

section

variable {before other : Past} {one two : Client}

theorem Twins.withTokens (twins : Twins before other one two) (tokens : Tokens) :
    Twins before other { one with tokens } { two with tokens } :=
  ⟨twins.session, rfl, twins.wire, twins.attempts, twins.sent⟩

theorem Twins.trying (twins : Twins before other one two) (request : Request) :
    Twins before other (one.trying request) (two.trying request) where
  session := twins.session
  tokens := twins.tokens
  wire := twins.wire
  attempts := by
    obtain ⟨tried, first, second⟩ := twins.attempts
    refine ⟨tried ++ [request], ?_, ?_⟩
    · rw [Client.trying, first, List.append_assoc]
    · rw [Client.trying, second, List.append_assoc]
  sent := twins.sent

theorem Twins.transmit (twins : Twins before other one two) (sent : Sent) :
    ∃ delivery afterOne afterTwo, one.wire.transmit sent = (delivery, afterOne) ∧
      two.wire.transmit sent = (delivery, afterTwo) ∧
      Twins before other { one with wire := afterOne } { two with wire := afterTwo } := by
  obtain ⟨delivery, afterOne, afterTwo, wentOne, wentTwo, alike, went⟩ :=
    @Wire.transmit_alike _ _ twins.wire sent sent rfl rfl
  refine ⟨delivery, afterOne, afterTwo, wentOne, wentTwo, twins.session, twins.tokens, alike,
    twins.attempts, ?_⟩
  obtain ⟨news, first, second⟩ := twins.sent
  rcases went with ⟨keptOne, keptTwo⟩ | ⟨keptOne, keptTwo⟩
  · exact ⟨news, keptOne.trans first, keptTwo.trans second⟩
  · refine ⟨news ++ [sent], ?_, ?_⟩
    · rw [keptOne, first, List.append_assoc]
    · rw [keptTwo, second, List.append_assoc]

theorem parallel_exchange (request : Request) :
    Parallel (Twins before other) (exchange request) (exchange request) := by
  intro one two twins
  unfold EndTogether
  rw [run_exchange, run_exchange, twins.session, twins.tokens]
  cases prepare two.session two.tokens request with
  | error cause => exact ⟨rfl, twins.trying request⟩
  | ok pair =>
      obtain ⟨url, sent⟩ := pair
      obtain ⟨delivery, afterOne, afterTwo, wentOne, wentTwo, after⟩ :=
        (twins.trying request).transmit sent
      dsimp only [Client.trying] at wentOne wentTwo after ⊢
      rw [wentOne, wentTwo]
      cases delivery with
      | answer answer => exact ⟨rfl, after.withTokens _⟩
      | timedOut | unreachable | dropped => exact ⟨rfl, after⟩

theorem parallel_composed {α : Type} {op : Operation α} (composed : op.Composed) :
    Parallel (Twins before other) op op := composed.parallel parallel_exchange

theorem parallel_logout : Parallel (Twins before other) logout logout := by
  intro one two twins
  have asked := parallel_composed (composed_executeBytes logoutRequest) one two twins
  obtain ⟨result, afterOne, afterTwo, ranOne, ranTwo, after⟩ := asked.exists_run
  unfold EndTogether
  rw [run_logout, run_logout, ranOne, ranTwo]
  cases result with
  | error cause => exact ⟨rfl, after⟩
  | ok pair => exact ⟨rfl, after.withTokens .empty⟩

theorem executeWriting_twins (request : Request) (twins : Twins before other one two) :
    ∃ written afterOne afterTwo, executeWriting request one = (written, afterOne) ∧
      executeWriting request two = (written, afterTwo) ∧
      Twins before other afterOne afterTwo := by
  have asked := parallel_composed (composed_send request) one two twins
  obtain ⟨result, afterOne, afterTwo, ranOne, ranTwo, after⟩ := asked.exists_run
  rw [run_executeWriting, run_executeWriting, ranOne, ranTwo]
  cases result with
  | error cause => exact ⟨_, _, _, rfl, rfl, after⟩
  | ok answer => exact ⟨_, _, _, rfl, rfl, after⟩

end

/-! ## Logins -/

/-- How a request goes out depends on whether it has a body, but not on what is in it. -/
theorem outgoing_body (session : Session) (tokens : Tokens) (request : Request)
    (bytes other : List UInt8) (url : Url) :
    outgoing session tokens { request with body := some other } url =
      (outgoing session tokens { request with body := some bytes } url).map
        fun sent => { sent with body := other } := by
  have headers : headersOf session tokens { request with body := some other } url =
    headersOf session tokens { request with body := some bytes } url := rfl
  unfold outgoing
  dsimp only
  rw [headers]
  split
  · rfl
  · split
    · rfl
    · split <;> rfl

theorem prepare_body (session : Session) (tokens : Tokens) (request : Request)
    (bytes other : List UInt8) :
    prepare session tokens { request with body := some other } =
      (prepare session tokens { request with body := some bytes }).map
        fun pair => (pair.1, { pair.2 with body := other }) := by
  unfold prepare
  cases session.resolve request.path with
  | error cause => rfl
  | ok url =>
      simp only [bind, Except.bind, outgoing_body session tokens request bytes other url]
      split
      · rfl
      · cases outgoing session tokens { request with body := some bytes } url <;> rfl

theorem prepare_loginRequest (session : Session) (tokens : Tokens) (username password : String) :
    prepare session tokens (loginRequest username password) =
      (prepare session tokens (loginRequest username "")).map
        fun pair => (pair.1, pair.2.bearing username password) :=
  prepare_body session tokens (loginRequest username "") _ _

/-- Clients that are alike once each of them has made its request. -/
theorem Twins.of_past {before other : Past} {one two : Client} (first : one.past = before)
    (second : two.past = other) (session : one.session = two.session)
    (tokens : one.tokens = two.tokens) (wire : one.wire.Alike two.wire) :
    Twins before other one two := by
  subst first
  subst second
  exact ⟨session, tokens, wire, ⟨[], by simp [past]⟩, ⟨[], by simp [past]⟩⟩

theorem exchange_logins (username one two : String) (client : Client) :
    ∃ before other, Past.Apart username one two client.past before other ∧
      EndTogether (Twins before other) (exchange (loginRequest username one))
        (exchange (loginRequest username two)) client client := by
  unfold EndTogether
  rw [run_exchange, run_exchange, prepare_loginRequest _ _ _ one, prepare_loginRequest _ _ _ two]
  cases prepare client.session client.tokens (loginRequest username "") with
  | error cause =>
      dsimp only [Except.map, trying]
      exact ⟨_, _, .unsent, rfl, .of_past rfl rfl rfl rfl ⟨rfl, rfl⟩⟩
  | ok pair =>
      obtain ⟨url, login⟩ := pair
      obtain ⟨delivery, afterOne, afterTwo, wentOne, wentTwo, alike, sent⟩ :=
        @Wire.transmit_alike client.wire client.wire ⟨rfl, rfl⟩ (login.bearing username one)
          (login.bearing username two) rfl rfl
      have apart : Past.Apart username one two client.past
          ⟨client.attempts ++ [loginRequest username one], afterOne.sent⟩
          ⟨client.attempts ++ [loginRequest username two], afterTwo.sent⟩ := by
        rcases sent with ⟨keptOne, keptTwo⟩ | ⟨keptOne, keptTwo⟩
        · rw [keptOne, keptTwo]
          exact .unsent
        · rw [keptOne, keptTwo]
          exact .sent login
      dsimp only [Except.map, trying]
      rw [wentOne, wentTwo]
      refine ⟨_, _, apart, ?_⟩
      cases delivery with
      | answer answer => exact ⟨rfl, .of_past rfl rfl rfl rfl alike⟩
      | timedOut | unreachable | dropped => exact ⟨rfl, .of_past rfl rfl rfl rfl alike⟩

theorem executeShape_logins (username one two : String) (client : Client) :
    ∃ before other, Past.Apart username one two client.past before other ∧
      EndTogether (Twins before other) (executeShape loginShape (loginRequest username one))
        (executeShape loginShape (loginRequest username two)) client client := by
  obtain ⟨before, other, apart, exchanged⟩ := exchange_logins username one two client
  refine ⟨before, other, apart, (exchanged.bind fun pair => ?_).bind fun answer => ?_⟩
  · obtain ⟨url, answer⟩ := pair
    dsimp only
    split
    · exact parallel_pure answer
    · exact parallel_throw _
  · split
    · exact parallel_composed ((composed_liftM _).bind fun _ => .pure _)
    · exact parallel_throw _

/-- A login with one password or another leaves clients that are alike but for the login. -/
theorem login_twins (username one two : String) (client : Client) :
    ∃ before other, Past.Apart username one two client.past before other ∧
      EndTogether (Twins before other) (login username one) (login username two) client client := by
  obtain ⟨before, other, apart, shaped⟩ :=
    executeShape_logins username one two { client with tokens := .empty }
  refine ⟨before, other, apart, ?_⟩
  obtain ⟨result, afterOne, afterTwo, ranOne, ranTwo, after⟩ := shaped.exists_run
  unfold EndTogether
  rw [run_login, run_login, ranOne, ranTwo]
  cases result with
  | error cause => exact ⟨rfl, after⟩
  | ok pair =>
      dsimp only
      rw [← after.tokens]
      cases missingToken afterOne.tokens with
      | none => exact ⟨rfl, after⟩
      | some message => exact ⟨rfl, after.withTokens .empty⟩

end Client

end NetConsole
