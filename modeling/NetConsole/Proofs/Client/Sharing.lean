import NetConsole.Client.Shared
import NetConsole.Proofs.Client.Account

/-!
# What callers of a shared client can count on

However requests and answers of a shared client interleave, a request in flight was let through by,
and bears, the tokens of one moment: the one at which it was begun. The tokens themselves follow
the answers in the order in which these arrive, and each of the two is settled by the cookies of
its own name, whatever arrives for the other in between.
-/

set_option autoImplicit false

namespace NetConsole

open Stepwise
open Happening (sinceReset)

namespace SharedClient

variable {shared start : SharedClient}

@[simp] theorem run_nil (shared : SharedClient) : shared.run [] = shared := rfl

@[simp] theorem run_cons (shared : SharedClient) (event : Event) (events : List Event) :
    shared.run (event :: events) = (shared.step event).run events := rfl

@[simp] theorem run_append (shared : SharedClient) (first second : List Event) :
    shared.run (first ++ second) = (shared.run first).run second :=
  List.foldl_append

/-! ## One event -/

/-- A flight that is let through by the tokens held now and bears them. -/
structure Admits (shared : SharedClient) (flight : Flight) : Prop where
  prepared : Client.prepare shared.session shared.tokens flight.request =
    .ok (flight.url, flight.sent)
  allowed : flight.request.anonymous = false → shared.tokens.hasSession = true
  carries : flight.sent.Carries shared.tokens

theorem begin?_eq_ok {request : Request} {after : SharedClient}
    (begun : shared.begin? request = .ok after) :
    ∃ flight : Flight, flight.request = request ∧ shared.Admits flight ∧
      after = { shared with flights := shared.flights ++ [flight] } := by
  obtain ⟨⟨url, sent⟩, prepared, rest⟩ := bind_eq_ok.mp begun
  cases rest
  obtain ⟨allowed, -, goes⟩ := Client.prepare_eq_ok prepared
  exact ⟨⟨request, url, sent⟩, rfl, ⟨prepared, allowed, Client.outgoing_carries goes⟩, rfl⟩

/-- Without a session token a request that needs one is refused, and nothing changes. -/
theorem step_refused {request : Request} (guarded : request.anonymous = false)
    (none : shared.tokens.hasSession = false) : shared.step (.begins request) = shared := by
  obtain ⟨cause, -, failed⟩ := Client.prepare_isLocal shared.session guarded none
  simp [step, begin?, failed, bind, Except.bind]

/-- What an event does that bears on the tokens. -/
def happenings (shared : SharedClient) : Event → List Happening
  | .begins request =>
      match Client.prepare shared.session shared.tokens request with
      | .ok (_, sent) => [.request sent]
      | .error _ => []
  | .arrives position answer =>
      if position < shared.flights.length then [.cookies answer.cookies] else []
  | .fails _ => []
  | .clears => [.reset]

theorem step_session (shared : SharedClient) (event : Event) :
    (shared.step event).session = shared.session := by
  cases event with
  | begins request =>
      rw [step]
      cases begun : shared.begin? request with
      | error cause => rfl
      | ok after =>
          obtain ⟨flight, -, -, rfl⟩ := begin?_eq_ok begun
          rfl
  | arrives position answer => rw [step]; split <;> rfl
  | fails position => rfl
  | clears => rfl

/-- A request leaves the tokens alone; an answer is folded into those held when it arrives. -/
theorem step_tokens (shared : SharedClient) (event : Event) :
    (shared.step event).tokens = shared.tokens.after (shared.happenings event) := by
  cases event with
  | begins request =>
      simp only [step, happenings, begin?, bind, Except.bind, pure, Except.pure]
      cases Client.prepare shared.session shared.tokens request <;> rfl
  | arrives position answer => simp only [step, happenings]; split <;> rfl
  | fails position => rfl
  | clears => rfl

/-- A flight was there before, or it has just been begun. -/
theorem mem_flights_step {event : Event} {flight : Flight}
    (inFlight : flight ∈ (shared.step event).flights) :
    flight ∈ shared.flights ∨ event = .begins flight.request ∧ shared.Admits flight := by
  cases event with
  | begins request =>
      rw [step] at inFlight
      cases begun : shared.begin? request with
      | error cause =>
          rw [begun] at inFlight
          exact .inl inFlight
      | ok after =>
          obtain ⟨fresh, rfl, admitted, rfl⟩ := begin?_eq_ok begun
          rw [begun] at inFlight
          rcases List.mem_append.mp inFlight with earlier | new
          · exact .inl earlier
          · obtain rfl := List.mem_singleton.mp new
            exact .inr ⟨rfl, admitted⟩
  | arrives position answer =>
      rw [step] at inFlight
      split at inFlight
      · exact .inl (List.mem_of_mem_eraseIdx inFlight)
      · exact .inl inFlight
  | fails position => exact .inl (List.mem_of_mem_eraseIdx inFlight)
  | clears => exact .inl inFlight

/-! ## A run -/

/-- What a run does that bears on the tokens. -/
def log (shared : SharedClient) : List Event → List Happening
  | [] => []
  | event :: rest => shared.happenings event ++ (shared.step event).log rest

theorem run_session (shared : SharedClient) (events : List Event) :
    (shared.run events).session = shared.session := by
  induction events generalizing shared with
  | nil => rfl
  | cons event rest ih => rw [run_cons, ih, step_session]

theorem run_tokens (shared : SharedClient) (events : List Event) :
    (shared.run events).tokens = shared.tokens.after (shared.log events) := by
  induction events generalizing shared with
  | nil => rfl
  | cons event rest ih => rw [run_cons, ih, step_tokens, log, Tokens.after_append]

theorem reset_not_mem_log {events : List Event} (kept : .clears ∉ events) :
    .reset ∉ shared.log events := by
  induction events generalizing shared with
  | nil => exact List.not_mem_nil
  | cons event rest ih =>
      have later := @ih (shared.step event) fun member => kept (List.mem_cons_of_mem _ member)
      have now : .reset ∉ shared.happenings event := by
        cases event with
        | begins request => rw [happenings]; split <;> simp
        | arrives position answer => rw [happenings]; split <;> simp
        | fails position => simp [happenings]
        | clears => exact absurd List.mem_cons_self kept
      simp [log, now, later]

/-- Every flight goes back to the event that began it. -/
theorem mem_flights_run {events : List Event} {flight : Flight}
    (inFlight : flight ∈ (start.run events).flights) :
    flight ∈ start.flights ∨ ∃ earlier later,
      events = earlier ++ .begins flight.request :: later ∧ (start.run earlier).Admits flight := by
  induction events using List.reverseRecOn with
  | nil => exact .inl inFlight
  | append_singleton events event ih =>
      rw [run_append] at inFlight
      rcases mem_flights_step inFlight with before | ⟨rfl, admitted⟩
      · rcases ih before with first | ⟨earlier, later, rfl, admitted⟩
        · exact .inl first
        · exact .inr ⟨earlier, later ++ [event], by simp, admitted⟩
      · exact .inr ⟨events, [], rfl, admitted⟩

/-- What callers can count on after events that began with nothing in flight. -/
structure Sharing (session : Session) (tokens : Tokens) (events : List Event) : Prop where
  /-- A request in flight was begun at some moment, and the tokens of that moment, both of them,
  let it through and are what it bears. -/
  admitted : ∀ flight ∈ (SharedClient.run { session, tokens } events).flights,
    ∃ earlier later, events = earlier ++ .begins flight.request :: later ∧
      (SharedClient.run { session, tokens } earlier).Admits flight
  /-- Without a session token no request gets in flight that needs one. -/
  refused : ∀ request : Request, request.anonymous = false →
    (SharedClient.run { session, tokens } events).tokens.hasSession = false →
    (SharedClient.run { session, tokens } events).step (.begins request) =
      SharedClient.run { session, tokens } events
  /-- The tokens absorbed every answer, in the order in which they arrived; -/
  absorbed : .clears ∉ events → (SharedClient.run { session, tokens } events).tokens =
    tokens.absorb (sinceReset (log { session, tokens } events))
  /-- if any were dropped in between, they follow that as well. -/
  followed : (SharedClient.run { session, tokens } events).tokens =
    tokens.after (log { session, tokens } events)
  /-- A session token that was issued is held until its own name is set again, -/
  session_kept : ∀ earlier list cookie later,
    log { session, tokens } events = earlier ++ .cookies list :: later →
    (list.filter (·.1 == Tokens.sessionName)).getLast? = some cookie →
    (∀ happening ∈ later, happening.Spares Tokens.sessionName) →
    (SharedClient.run { session, tokens } events).tokens.session = Tokens.issued cookie.2
  /-- and so is a CSRF token. -/
  csrf_kept : ∀ earlier list cookie later,
    log { session, tokens } events = earlier ++ .cookies list :: later →
    (list.filter (·.1 == Tokens.csrfName)).getLast? = some cookie →
    (∀ happening ∈ later, happening.Spares Tokens.csrfName) →
    (SharedClient.run { session, tokens } events).tokens.csrf = Tokens.issued cookie.2

theorem sharing (session : Session) (tokens : Tokens) (events : List Event) :
    Sharing session tokens events where
  admitted := by
    intro flight inFlight
    rcases mem_flights_run inFlight with there | begun
    · cases there
    · exact begun
  refused := fun _ => step_refused
  absorbed := by
    intro kept
    rw [run_tokens, Tokens.after_eq_absorb _ (reset_not_mem_log kept)]
  followed := run_tokens _ events
  session_kept := by
    intro earlier list cookie later split last spared
    rw [run_tokens, split]
    exact Tokens.settles_session.after_issued _ last spared
  csrf_kept := by
    intro earlier list cookie later split last spared
    rw [run_tokens, split]
    exact Tokens.settles_csrf.after_issued _ last spared

end SharedClient

/-! ## A client that nobody shares -/

namespace Client

open SharedClient

/-- The client as its callers share it, with nothing in flight. -/
def shared (client : Client) : SharedClient := { session := client.session, tokens := client.tokens }

/-- What becomes of the one request in flight. -/
def landing : Except ClientError (Url × Answer) → SharedClient.Event
  | .ok (_, answer) => .arrives 0 answer
  | .error _ => .fails 0

/-- An exchange is two events of a client that has nothing else in flight. -/
theorem shared_exchange (request : Request) (client : Client) :
    ((exchange request).run client).2.shared =
      client.shared.run [.begins request, landing ((exchange request).run client).1] := by
  rw [run_exchange]
  cases prepared : prepare client.session client.tokens request with
  | error cause =>
      simp [shared, trying, landing, step, begin?, landed, prepared, bind, Except.bind]
  | ok pair =>
      obtain ⟨url, sent⟩ := pair
      dsimp only
      rcases client.wire.transmit sent with ⟨delivery, wire⟩
      cases delivery <;>
        simp [shared, trying, landing, step, begin?, landed, prepared, bind, Except.bind, pure,
          Except.pure]

/-- A login drops the tokens, makes its exchange, and drops them again if one was not issued. -/
theorem shared_login (username password : String) (client : Client) :
    ((login username password).run client).2.shared =
      client.shared.run ([.clears, .begins (loginRequest username password),
        landing ((exchange (loginRequest username password)).run
          { client with tokens := .empty }).1] ++
        match ((login username password).run client).1 with
        | .error (.authentication _) => [.clears]
        | _ => []) := by
  have exchanged := shared_exchange (loginRequest username password) { client with tokens := .empty }
  have left := after_executeShape loginShape (loginRequest username password)
    { client with tokens := .empty }
  have spared := spares_executeShape loginShape (loginRequest username password)
    { client with tokens := .empty }
  rw [← left] at exchanged
  rw [run_append, run_cons]
  change _ = SharedClient.run (SharedClient.run { client with tokens := .empty }.shared _) _
  rw [← exchanged, run_login]
  rcases ran : (executeShape loginShape (loginRequest username password)).run
    { client with tokens := .empty } with ⟨result, after⟩
  rw [ran] at spared
  cases result with
  | error cause =>
      cases cause with
      | authentication message => exact absurd rfl (spared message)
      | _ => rfl
  | ok pair =>
      dsimp only
      cases missingToken after.tokens <;> rfl

/-- A logout makes its exchange, and drops the tokens if that succeeded. -/
theorem shared_logout (client : Client) :
    (logout.run client).2.shared =
      client.shared.run ([.begins logoutRequest,
        landing ((exchange logoutRequest).run client).1] ++
        match (logout.run client).1 with
        | .ok _ => [.clears]
        | .error _ => []) := by
  have exchanged := shared_exchange logoutRequest client
  rw [← after_executeBytes] at exchanged
  rw [run_append, ← exchanged, run_logout]
  rcases (executeBytes logoutRequest).run client with ⟨result, after⟩
  cases result <;> rfl

end Client

end NetConsole
