import NetConsole.Proofs.Client.Answers
import NetConsole.Proofs.Client.Hosts

/-!
# Between a login and a logout

Once a login has succeeded the controller can be reached, and the tokens that are held can be sent.
No exchange changes that, whatever comes back, so that requests to web addresses within reach go out
and the logout goes out in the end.
-/

set_option autoImplicit false

namespace NetConsole

open Stepwise Operation Url

/-! ## Answered requests -/

namespace Client

variable {client : Client} {request : Request} {url : Url} {answer : Answer}

theorem Hears.exists_sent (hears : client.Hears request url answer) :
    ∃ sent, prepare client.session client.tokens request = .ok (url, sent) ∧
      ((exchange request).run client).2.wire = { client.wire with
        replies := client.wire.replies.drop 1, sent := client.wire.sent ++ [sent] } := by
  obtain ⟨sent, prepared, answered⟩ := hears_iff.mp hears
  refine ⟨sent, prepared, ?_⟩
  rw [wire_exchange, prepared]
  exact Wire.transmit_reached (Wire.transmit_answer_iff.mp answered).1

theorem after_executeWriting (request : Request) (client : Client) :
    (executeWriting request client).2 = ((exchange request).run client).2 := by
  have same := congrArg Prod.snd (executeWriting_eq_executeBytes request client)
  rw [run_ending, after_executeBytes] at same
  exact same

/-- A request for which no answer waits fails. -/
theorem exists_error_of_silent (resolved : client.session.resolve request.path = .ok url)
    (plain : request.query = [])
    (silent : client.wire.reaches (stripUser url) = true →
      ∀ came, client.wire.replies.head? ≠ some (.answer came)) :
    ∃ cause, ((exchange request).run client).1 = .error cause := by
  cases exchanged : ((exchange request).run client).1 with
  | error cause => exact ⟨cause, rfl⟩
  | ok pair =>
      obtain ⟨place, answer⟩ := pair
      have hears := exchange_ok_iff.mp exchanged
      obtain rfl : place = url := Except.ok.inj (hears.resolved.symm.trans resolved)
      obtain ⟨came, rest, waiting, -⟩ := hears.arrived
      have reached := hears.reached
      rw [plain] at reached
      exact absurd (List.head?_eq_some_iff.mpr ⟨rest, waiting⟩) (silent reached came)

/-- A whole answer of success is written as it is, and any other is refused. -/
theorem executeWriting_of_hears (hears : client.Hears request url answer)
    (complete : answer.complete = true) : executeWriting request client =
      (if answer.succeeded then (answer.body, .ok answer)
        else ([], .error (.refused (refusalOf request url answer))),
        ((exchange request).run client).2) := by
  rw [run_executeWriting, run_send, exchange_ok_iff.mpr hears]
  cases succeeded : answer.succeeded <;>
    simp [judged, succeeded, complete, bind, Except.bind]

end Client

/-! ## What exchanges keep -/

theorem Wire.IsReal.exchange {client : Client} (real : client.wire.IsReal) (request : Request) :
    ((Client.exchange request).run client).2.wire.IsReal := by
  rw [Client.wire_exchange]
  cases Client.prepare client.session client.tokens request with
  | error cause => exact real
  | ok pair =>
      obtain ⟨url, sent⟩ := pair
      dsimp only
      rcases client.wire.transmit_cases sent with stays | ⟨delivery, goesOut, -⟩
      · rw [stays]
        exact real
      · rw [goesOut]
        exact ⟨real.byOrigin, fun answer member => real.spoken answer (List.mem_of_mem_drop member)⟩

theorem Tokens.Sendable.exchange {client : Client} (sendable : client.tokens.Sendable)
    (real : client.wire.IsReal) (request : Request) :
    ((Client.exchange request).run client).2.tokens.Sendable := by
  rw [Client.tokens_exchange, Client.cookiesFor]
  cases exchanged : ((Client.exchange request).run client).1 with
  | error cause => exact sendable
  | ok pair =>
      have hears : client.Hears request pair.1 pair.2 := Client.exchange_ok_iff.mp exchanged
      exact sendable.answered (hears.spoken real)

namespace Client

/-- A client that reaches its controller, where it can log in and out. -/
structure AtHome (session : Session) (client : Client) : Prop where
  own : client.session = session
  real : client.wire.IsReal
  sendable : client.tokens.Sendable
  home : ∃ url, session.resolve "/api/login" = Except.ok url ∧
    Client.Sendable session .empty url ∧ client.wire.reaches (stripUser url) = true

variable {session : Session} {client : Client}

theorem AtHome.exchange (atHome : client.AtHome session) (request : Request) :
    ((Client.exchange request).run client).2.AtHome session where
  own := (session_exchange request client).trans atHome.own
  real := atHome.real.exchange request
  sendable := atHome.sendable.exchange atHome.real request
  home := by
    rw [reaches_exchange]
    exact atHome.home

/-- Where a session can log in, every web address that a path leads to has a host. -/
theorem AtHome.hasHost {controller : Url} (atHome : client.AtHome session)
    (isAt : session.IsAt controller) {path : String} {url : Url}
    (resolved : session.resolve path = .ok url) (http : url.isHttp = true) :
    Client.hasHost url = true := by
  obtain ⟨home, led, sendable, -⟩ := atHome.home
  obtain ⟨scheme, authority⟩ := isAt.resolve (begins_login "" "") led
  have special : isSpecial controller.scheme = true := by
    rw [← scheme]
    exact isSpecial_of_isHttp sendable.http
  have housed (base : Url) (same : base.authority = controller.authority) :
      Client.hasHost base = true := by
    have host := sendable.host
    rw [Client.hasHost, authority] at host
    rw [Client.hasHost, same]
    exact host
  refine Session.hasHost_of_resolve ⟨?_, housed _ isAt.root.2⟩ ⟨?_, housed _ isAt.siteBase.2⟩
    resolved http
  · rw [isAt.root.1]
    exact special
  · rw [isAt.siteBase.1]
    exact special

/-- From home, a request can be sent to every web address that its path leads to. -/
theorem AtHome.sendable_to {controller : Url} (atHome : client.AtHome session)
    (isAt : session.IsAt controller) {path : String} {url : Url}
    (resolved : session.resolve path = .ok url) (http : url.isHttp = true) :
    Client.Sendable client.session client.tokens url := by
  obtain ⟨home, -, sendable, -⟩ := atHome.home
  rw [atHome.own]
  exact ⟨atHome.hasHost isAt resolved http, http,
    fun _ names => isHeaderValue_basicAuthorization names, sendable.agent, atHome.sendable⟩

/-- From home, a request to a web address within reach goes out as it is worded. -/
theorem AtHome.exists_sent {controller : Url} (atHome : client.AtHome session)
    (isAt : session.IsAt controller) (request : Request) (plain : request.query = [])
    (held : request.anonymous = false → client.isLoggedIn = true) {url : Url}
    (resolved : session.resolve request.path = .ok url) (http : url.isHttp = true)
    (reached : client.wire.reaches (stripUser url) = true) :
    ∃ sent, sent.Words session request ∧
      ((Client.exchange request).run client).2.wire.sent = client.wire.sent ++ [sent] := by
  have sendable := atHome.sendable_to isAt resolved http
  rw [← atHome.own] at resolved
  obtain ⟨sent, prepared⟩ := prepare_of_sendable resolved held sendable
  obtain ⟨-, -, goes⟩ := prepare_eq_ok prepared
  have words := outgoing_words resolved goes
  rw [atHome.own] at words
  rw [← url_of_prepare plain prepared] at reached
  exact ⟨sent, words, exchange_reached prepared reached⟩

theorem AtHome.hears {controller : Url} (atHome : client.AtHome session)
    (isAt : session.IsAt controller) (request : Request) (plain : request.query = [])
    (held : request.anonymous = false → client.isLoggedIn = true) {url : Url}
    (resolved : session.resolve request.path = .ok url) (http : url.isHttp = true)
    (reached : client.wire.reaches (stripUser url) = true) {came : Answer}
    (waits : client.wire.replies.head? = some (.answer came)) :
    client.Hears request url (Wire.arriving request.method came) where
  resolved := by
    rw [atHome.own]
    exact resolved
  held := held
  sendable := atHome.sendable_to isAt resolved http
  reached := by
    rw [plain]
    exact reached
  arrived := by
    obtain ⟨rest, waiting⟩ := List.head?_eq_some_iff.mp waits
    exact ⟨came, rest, waiting, rfl⟩

/-! ## Logging in -/

theorem hears_of_executeShape {shape : Json.Shape} {request : Request} {pair : Answer × Json}
    (ok : ((executeShape shape request).run client).1 = .ok pair) :
    ∃ url answer, client.Hears request url answer := by
  rw [run_executeShape, bind_eq_ok] at ok
  obtain ⟨whole, arrived, -⟩ := ok
  rw [run_executeBytes, bind_eq_ok] at arrived
  obtain ⟨answer, sent, -⟩ := arrived
  rw [run_send, bind_eq_ok] at sent
  obtain ⟨⟨url, answer⟩, exchanged, -⟩ := sent
  exact ⟨url, answer, exchange_ok_iff.mp exchanged⟩

/-- A login that succeeds was answered, and has brought a session token. -/
theorem hears_of_login {username password : String} {before : Client}
    (succeeded : ((Call.login username password).turn before).result = .ok ()) :
    (∃ url answer, Hears { before with tokens := .empty } (loginRequest username password)
      url answer) ∧
    ((Call.login username password).turn before).after =
      ((exchange (loginRequest username password)).run { before with tokens := .empty }).2 ∧
    ((Call.login username password).turn before).after.isLoggedIn = true := by
  have turned := run_ending (login username password) before
  have result : ((Call.login username password).turn before).result =
      ((login username password).run before).1.map fun _ => () := congrArg Prod.fst turned
  have after : ((Call.login username password).turn before).after =
      ((login username password).run before).2 := congrArg Prod.snd turned
  rw [result, run_login] at succeeded
  rw [after, run_login]
  have left := after_executeShape loginShape (loginRequest username password)
    { before with tokens := .empty }
  have heard := @hears_of_executeShape { before with tokens := .empty } loginShape
    (loginRequest username password)
  rcases ran : (executeShape loginShape (loginRequest username password)).run
    { before with tokens := .empty } with ⟨outcome, inside⟩
  rw [ran] at succeeded left heard
  cases outcome with
  | error cause => cases succeeded
  | ok pair =>
      dsimp only at succeeded ⊢
      cases missing : missingToken inside.tokens with
      | some message =>
          rw [missing] at succeeded
          cases succeeded
      | none =>
          exact ⟨heard rfl, left, (missingToken_eq_none missing).1⟩

/-- After a login that succeeds the client is at home, and one request has gone out. -/
theorem exists_login {username password : String} {before : Client} (real : before.wire.IsReal)
    (succeeded : ((Call.login username password).turn before).result = .ok ()) :
    ∃ first, first.Words before.session (loginRequest username password) ∧
      ((Call.login username password).turn before).after.wire = { before.wire with
        replies := before.wire.replies.drop 1, sent := before.wire.sent ++ [first] } ∧
      ((Call.login username password).turn before).after.isLoggedIn = true ∧
      ((Call.login username password).turn before).after.AtHome before.session := by
  obtain ⟨⟨url, answer, hears⟩, after, loggedIn⟩ := hears_of_login succeeded
  obtain ⟨first, prepared, wire⟩ := hears.exists_sent
  obtain ⟨-, resolved, goes⟩ := prepare_eq_ok prepared
  have start : Client.AtHome before.session { before with tokens := .empty } := {
    own := rfl
    real := real
    sendable := hears.sendable.tokens
    home := ⟨url, hears.resolved, hears.sendable, hears.reached⟩ }
  refine ⟨first, outgoing_words resolved goes, ?_, loggedIn, ?_⟩
  · rw [after]
    exact wire
  · rw [after]
    exact start.exchange _

/-! ## Logging out -/

theorem wire_logout (client : Client) : (Call.logout.turn client).after.wire =
    ((exchange logoutRequest).run client).2.wire := by
  rw [← after_executeBytes]
  change (logout.run client).2.wire = _
  rw [run_logout]
  rcases (executeBytes logoutRequest).run client with ⟨result, after⟩
  cases result <;> rfl

/-- From home the logout goes out. -/
theorem AtHome.exists_logout (atHome : client.AtHome session) :
    ∃ last, last.Words session logoutRequest ∧
      (Call.logout.turn client).after.wire.sent = client.wire.sent ++ [last] := by
  obtain ⟨home, led, sendable, reached⟩ := atHome.home
  have akin : Akin Url.SamePlace (session.resolve "/api/login")
      (session.resolve logoutRequest.path) :=
    Session.akin_resolve (begins_login "" "") begins_logout rfl
  rw [led] at akin
  generalize found : session.resolve logoutRequest.path = other at akin
  cases akin with
  | @ok _ place same =>
      rw [← atHome.own] at found sendable
      obtain ⟨last, prepared⟩ := prepare_of_sendable found (fun named => nomatch named)
        (sendable.again same atHome.sendable)
      obtain ⟨-, resolved, goes⟩ := prepare_eq_ok prepared
      have words := outgoing_words resolved goes
      rw [atHome.own] at words
      have there : client.wire.reaches last.url = true := by
        rw [← reached]
        apply atHome.real.byOrigin
        rw [url_of_prepare rfl prepared]
        exact ((sameOrigin_stripUser place).trans same.origin.symm).trans
          (sameOrigin_stripUser home).symm
      refine ⟨last, words, ?_⟩
      rw [wire_logout, exchange_reached prepared there]

end Client

end NetConsole
