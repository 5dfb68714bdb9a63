import NetConsole.Proofs.Client.TokenLaw

/-!
# What a login and a logout leave

Both make one request, and the cookies of its answer are folded into the tokens as soon as the
headers arrive, whatever becomes of the answer after that. A login begins without tokens, so it can
leave nothing older than its own answer; but only a login that lacks a token after a success drops
what it was given. A logout that fails keeps what its answer brought in place of what was held.
-/

set_option autoImplicit false

namespace NetConsole

open Stepwise
open Happening (heldBy)

namespace Operation

variable {α β : Type}

/-- An operation leaves the client as it is. -/
def Idle (op : Operation α) : Prop := ∀ before : Client, (op.run before).2 = before

theorem idle_pure (value : α) : Idle (pure value : Operation α) := fun _ => rfl

theorem idle_throw (cause : ClientError) : Idle (throw cause : Operation α) := fun _ => rfl

theorem idle_liftM (result : Except ClientError α) : Idle (liftM result : Operation α) :=
  fun _ => rfl

theorem Idle.bind {op : Operation α} {next : α → Operation β} (one : Idle op)
    (two : ∀ value, Idle (next value)) : Idle (op >>= next) := by
  intro before
  rcases ran : op.run before with ⟨result, between⟩
  obtain rfl : between = before := by
    have left := one before
    rwa [ran] at left
  cases result with
  | error cause => rw [run_bind_error ran]
  | ok value => rw [run_bind_ok ran, two value between]

/-- What is made of a result has no part in the client that is left. -/
theorem after_bind {next : α → Operation β} (idle : ∀ value, Idle (next value)) (op : Operation α)
    (before : Client) : ((op >>= next).run before).2 = (op.run before).2 := by
  rcases ran : op.run before with ⟨result, between⟩
  cases result with
  | error cause => rw [run_bind_error ran]
  | ok value => rw [run_bind_ok ran, idle value between]

end Operation

namespace Tokens

/-- Cookies leave tokens as they are exactly if the last of each name stands for what is held. -/
theorem absorb_eq_self_iff {tokens : Tokens} {cookies : List (String × String)} :
    tokens.absorb cookies = tokens ↔
      (∀ cookie, (cookies.filter (·.1 == sessionName)).getLast? = some cookie →
        issued cookie.2 = tokens.session) ∧
      ∀ cookie, (cookies.filter (·.1 == csrfName)).getLast? = some cookie →
        issued cookie.2 = tokens.csrf := by
  have parts : tokens.absorb cookies = tokens ↔ (tokens.absorb cookies).session = tokens.session ∧
      (tokens.absorb cookies).csrf = tokens.csrf := by
    cases tokens.absorb cookies
    cases tokens
    rw [Tokens.mk.injEq]
  rw [parts, absorb_session, absorb_csrf]
  apply and_congr
  · cases (cookies.filter (·.1 == sessionName)).getLast? <;> simp
  · cases (cookies.filter (·.1 == csrfName)).getLast? <;> simp

/-- Cookies that are folded into no tokens leave those that they issue. -/
theorem absorb_empty (cookies : List (String × String)) :
    empty.absorb cookies = heldBy [.cookies cookies] :=
  empty_after [.cookies cookies]

end Tokens

namespace Client

open Operation

/-! ## One request -/

/-- The cookies that come with the answer to a request, if the headers of one arrive. -/
def cookiesFor (request : Request) (client : Client) : List (String × String) :=
  match ((exchange request).run client).1 with
  | .ok (_, answer) => answer.cookies
  | .error _ => []

theorem tokens_exchange (request : Request) (client : Client) :
    ((exchange request).run client).2.tokens =
      client.tokens.absorb (cookiesFor request client) := by
  unfold cookiesFor
  rw [run_exchange]
  cases prepare client.session client.tokens request with
  | error cause => rfl
  | ok pair =>
      obtain ⟨url, sent⟩ := pair
      dsimp only
      rcases client.wire.transmit sent with ⟨delivery, wire⟩
      cases delivery <;> rfl

theorem after_send (request : Request) (client : Client) :
    ((send request).run client).2 = ((exchange request).run client).2 := by
  refine after_bind (fun pair => ?_) _ client
  dsimp only
  split
  · exact idle_pure _
  · exact idle_throw _

/-- Whether the body arrives whole has no part in the client that is left, -/
theorem after_executeBytes (request : Request) (client : Client) :
    ((executeBytes request).run client).2 = ((exchange request).run client).2 := by
  have left : ((executeBytes request).run client).2 = ((send request).run client).2 := by
    refine after_bind (fun answer => ?_) _ client
    split
    · exact idle_pure _
    · exact idle_throw _
  rw [left, after_send]

/-- nor has whether the body can be decoded. -/
theorem after_executeShape (shape : Json.Shape) (request : Request) (client : Client) :
    ((executeShape shape request).run client).2 = ((exchange request).run client).2 := by
  have left : ((executeShape shape request).run client).2 = ((send request).run client).2 := by
    refine after_bind (fun answer => ?_) _ client
    split
    · exact (idle_liftM _).bind fun _ => idle_pure _
    · exact idle_throw _
  rw [left, after_send]

theorem tokens_executeBytes (request : Request) (client : Client) :
    ((executeBytes request).run client).2.tokens =
      client.tokens.absorb (cookiesFor request client) := by
  rw [after_executeBytes, tokens_exchange]

theorem tokens_executeShape (shape : Json.Shape) (request : Request) (client : Client) :
    ((executeShape shape request).run client).2.tokens =
      client.tokens.absorb (cookiesFor request client) := by
  rw [after_executeShape, tokens_exchange]

/-! ## Login -/

/-- The cookies of the answer to a login, which goes out without tokens. -/
def loginCookies (username password : String) (client : Client) : List (String × String) :=
  cookiesFor (loginRequest username password) { client with tokens := .empty }

theorem tokens_login_ok {username password : String} {client : Client} {status : LoginStatus}
    (ok : ((login username password).run client).1 = .ok status) :
    ((login username password).run client).2.tokens =
        heldBy [.cookies (loginCookies username password client)] ∧
      missingToken ((login username password).run client).2.tokens = none := by
  have tokens := tokens_executeShape loginShape (loginRequest username password)
    { client with tokens := .empty }
  rw [run_login] at ok ⊢
  rcases ran : (executeShape loginShape (loginRequest username password)).run
    { client with tokens := .empty } with ⟨result, after⟩
  rw [ran] at ok tokens
  cases result with
  | error cause => cases ok
  | ok pair =>
      dsimp only at ok tokens ⊢
      cases missing : missingToken after.tokens with
      | some message =>
          rw [missing] at ok
          cases ok
      | none =>
          rw [← Tokens.absorb_empty]
          exact ⟨tokens, missing⟩

/-- A login that lacks a token drops the other; one that fails otherwise keeps what its answer
brought. -/
theorem tokens_login_error {username password : String} {client : Client} {cause : ClientError}
    (failed : ((login username password).run client).1 = .error cause) :
    (∃ message, cause = .authentication message) ∧
        ((login username password).run client).2.tokens = .empty ∨
      (¬∃ message, cause = .authentication message) ∧
        ((login username password).run client).2.tokens =
          heldBy [.cookies (loginCookies username password client)] := by
  have tokens := tokens_executeShape loginShape (loginRequest username password)
    { client with tokens := .empty }
  have spared := spares_executeShape loginShape (loginRequest username password)
    { client with tokens := .empty }
  rw [run_login] at failed ⊢
  rcases ran : (executeShape loginShape (loginRequest username password)).run
    { client with tokens := .empty } with ⟨result, after⟩
  rw [ran] at failed tokens spared
  cases result with
  | error other =>
      right
      cases failed
      refine ⟨?_, ?_⟩
      · rintro ⟨message, rfl⟩
        exact spared message rfl
      · rw [← Tokens.absorb_empty]
        exact tokens
  | ok pair =>
      left
      dsimp only at failed ⊢
      cases missing : missingToken after.tokens with
      | some message =>
          rw [missing] at failed
          cases failed
          exact ⟨⟨message, rfl⟩, rfl⟩
      | none =>
          rw [missing] at failed
          cases failed

theorem missingToken_eq_none {tokens : Tokens} (whole : missingToken tokens = none) :
    tokens.session.isSome = true ∧ tokens.csrf.isSome = true := by
  obtain ⟨session, csrf⟩ := tokens
  cases session with
  | none => cases whole
  | some session =>
      cases csrf with
      | none => cases whole
      | some csrf => exact ⟨rfl, rfl⟩

/-- A request that needs a session token is denied where none is held, before it goes out. -/
theorem run_exchange_denied {request : Request} (named : request.anonymous = false)
    {client : Client} (none : client.isLoggedIn = false) {url : Url}
    (resolved : client.session.resolve request.path = .ok url) :
    (exchange request).run client = (.error .notLoggedIn, client.trying request) := by
  have denied : prepare client.session client.tokens request = .error .notLoggedIn := by
    rw [isLoggedIn] at none
    rw [prepare, resolved, named, none]
    rfl
  rw [run_exchange, denied]

theorem run_executeShape_denied (shape : Json.Shape) {request : Request}
    (named : request.anonymous = false) {client : Client} (none : client.isLoggedIn = false)
    {url : Url} (resolved : client.session.resolve request.path = .ok url) :
    (executeShape shape request).run client = (.error .notLoggedIn, client.trying request) :=
  run_bind_error (run_bind_error (run_exchange_denied named none resolved))

theorem run_list_denied (α : Type) [Record α] {path : String} (paging : Option Paging)
    {client : Client} (none : client.isLoggedIn = false) {url : Url}
    (resolved : client.session.resolve path = .ok url) :
    ((list α path paging).run client).1 = .error .notLoggedIn := by
  let request : Request := { method := .get, path, query := Paging.pairs? paging }
  have shaped := @run_executeShape_denied (Envelope.shape (Record.shape α)) request rfl client none
    url resolved
  exact congrArg Prod.fst (run_bind_error shaped)

/-- What a login leaves on a client. -/
structure LoginLeaves (username password : String) (before : Client)
    (result : Except ClientError LoginStatus) (after : Client) : Prop where
  /-- after a success both tokens are held, those that its own answer issued last, -/
  issued : ∀ status, result = .ok status →
    after.tokens = heldBy [.cookies (loginCookies username password before)] ∧
      after.tokens.session.isSome = true ∧ after.tokens.csrf.isSome = true
  /-- and after a failure none is held that its own answer did not issue; -/
  fresh : ∀ cause, result = .error cause → after.tokens = .empty ∨
    after.tokens = heldBy [.cookies (loginCookies username password before)]
  /-- none at all is held exactly if a token was missing after a success of the request, or if the
  answer issued none -/
  clean : ∀ cause, result = .error cause → (after.tokens = .empty ↔
    (∃ message, cause = .authentication message) ∨
      heldBy [.cookies (loginCookies username password before)] = .empty)
  /-- Without a session token every other call fails before it sends anything, -/
  refused : after.isLoggedIn = false → ∀ call : Call, call.isAccount = false →
    (call.turn after).news = [] ∧
      ∃ cause : ClientError, cause.isLocal = true ∧ (call.turn after).result = .error cause
  /-- and a list with a place on the controller is denied for want of the token. -/
  denied : after.isLoggedIn = false → ∀ (α : Type) [Record α] (path : String)
    (paging : Option Paging) (url : Url), after.session.resolve path = .ok url →
      ((Call.list α path paging).turn after).result = .error .notLoggedIn

theorem login_leaves (username password : String) (before : Client) :
    LoginLeaves username password before ((login username password).run before).1
      ((login username password).run before).2 where
  issued := by
    intro status ok
    obtain ⟨tokens, whole⟩ := tokens_login_ok ok
    exact ⟨tokens, missingToken_eq_none whole⟩
  fresh := by
    intro cause failed
    rcases tokens_login_error failed with ⟨-, none⟩ | ⟨-, own⟩
    · exact .inl none
    · exact .inr own
  clean := by
    intro cause failed
    rcases tokens_login_error failed with ⟨missing, none⟩ | ⟨other, own⟩
    · exact iff_of_true none (.inl missing)
    · rw [own]
      exact (or_iff_right other).symm
  refused := by
    intro none call ordinary
    obtain ⟨cause, isLocal, failed, wire, -⟩ := Call.refuses_operation ordinary _ none
    refine ⟨Turn.news_eq ?_, cause, isLocal, failed⟩
    rw [List.append_nil]
    exact congrArg Wire.sent wire
  denied := by
    intro none α _ path paging url resolved
    change ((ending (list α path paging)).run _).1 = _
    rw [run_ending, run_list_denied α paging none resolved]
    rfl

/-- A client of a console that answers with these replies. -/
def visitor (replies : List Reply) : Option Client :=
  let console : Url := ⟨"http", some ⟨"", none, .domain "unifi.local", some 8080⟩,
    .segments [""], none, none⟩
  (Session.open? console "default").toOption.map fun session =>
    .fresh session { reaches := fun _ => true, replies, sent := [] }

/-- Cookies that issue both tokens. -/
def bothTokens : List (String × String) :=
  [("set-cookie", "unifises=abc123; Path=/"), ("set-cookie", "csrf_token=tok456")]

/-- A refused login leaves the tokens that come with the refusal, and under them the next list goes
out. -/
theorem login_keeps_refused_tokens :
    (visitor [.answer ⟨401, bothTokens, [], true, []⟩,
        .answer ⟨200, [], Text.bytes "\x7b\x7d", true, []⟩]).map (fun client =>
      let login := (Call.login "admin" "secret").turn client
      let list := (Call.list Alarm alarmsPath none).turn login.after
      (login.result.toBool, login.after.tokens, list.result.toBool, list.news.map (·.method))) =
    some (false, ⟨some "abc123", some "tok456"⟩, true, [.get]) := by decide +kernel

/-! ## Logout -/

/-- What a logout leaves on a client. -/
structure LogoutLeaves (before : Client) (result : Except ClientError Unit) (after : Client) :
    Prop where
  /-- after a success no token is held; -/
  dropped : result = .ok () → after.tokens = .empty
  /-- after a failure those are held that were, but for what the answer replaced, -/
  kept : ∀ cause, result = .error cause →
    after.tokens = before.tokens.absorb (cookiesFor logoutRequest before)
  /-- which is nothing exactly if the last cookie of each name stands for what was held. -/
  untouched : ∀ cause, result = .error cause → (after.tokens = before.tokens ↔
    (∀ cookie, ((cookiesFor logoutRequest before).filter
        (·.1 == Tokens.sessionName)).getLast? = some cookie →
      Tokens.issued cookie.2 = before.tokens.session) ∧
    ∀ cookie, ((cookiesFor logoutRequest before).filter
        (·.1 == Tokens.csrfName)).getLast? = some cookie →
      Tokens.issued cookie.2 = before.tokens.csrf)

theorem tokens_logout_error {before : Client} {cause : ClientError}
    (failed : (logout.run before).1 = .error cause) :
    (logout.run before).2.tokens = before.tokens.absorb (cookiesFor logoutRequest before) := by
  have tokens := tokens_executeBytes logoutRequest before
  rw [run_logout] at failed ⊢
  rcases ran : (executeBytes logoutRequest).run before with ⟨result, after⟩
  rw [ran] at failed tokens
  cases result with
  | error other => exact tokens
  | ok pair => cases failed

theorem logout_leaves (before : Client) :
    LogoutLeaves before (logout.run before).1 (logout.run before).2 where
  dropped := by
    intro ok
    rw [run_logout] at ok ⊢
    rcases ran : (executeBytes logoutRequest).run before with ⟨result, after⟩
    rw [ran] at ok
    cases result with
    | error cause => cases ok
    | ok pair => rfl
  kept := fun _ failed => tokens_logout_error failed
  untouched := by
    intro cause failed
    rw [tokens_logout_error failed]
    exact Tokens.absorb_eq_self_iff

/-- A refused logout leaves the tokens that come with the refusal in place of those held, and one
whose answer breaks off takes away those that its answer expires. -/
theorem logout_replaces_tokens :
    (visitor [.answer ⟨200, bothTokens, [], true, []⟩,
        .answer ⟨500, [("set-cookie", "unifises=def789")], [], true, []⟩,
        .answer ⟨200, [("set-cookie", "unifises=")], [], false, []⟩]).map (fun client =>
      let login := (Call.login "admin" "secret").turn client
      let first := Call.logout.turn login.after
      let second := Call.logout.turn first.after
      (login.after.tokens, first.result.toBool, first.after.tokens, second.result.toBool,
        second.after.tokens)) =
    some (⟨some "abc123", some "tok456"⟩, false, ⟨some "def789", some "tok456"⟩, false,
      ⟨none, some "tok456"⟩) := by decide +kernel

end Client

end NetConsole
