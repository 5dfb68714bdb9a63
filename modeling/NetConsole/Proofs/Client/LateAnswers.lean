import NetConsole.Proofs.Client.Sharing

/-!
# Answers that come after a logout

A logout that succeeds drops the tokens, but not the requests in flight: the answers to those are
folded into the tokens as any other. So a shared client that has logged out holds a session token
again exactly if an answer has issued one since, and the first that does so answers a request that
was in flight at the logout, or one that may go out without a session.
-/

set_option autoImplicit false

namespace NetConsole

open Happening (heldBy lastIssued)

namespace SharedClient

variable {shared : SharedClient}

theorem tokens_dropped_run (shared : SharedClient) (events : List Event) :
    (shared.dropped.run events).tokens = heldBy (shared.dropped.log events) := by
  rw [run_tokens, ← Tokens.empty_after]
  rfl

theorem hasSession_heldBy_iff {log : List Happening} :
    (heldBy log).hasSession = true ↔
      ∃ value, value ≠ "" ∧ lastIssued Tokens.sessionName log = some value := by
  simp only [Tokens.hasSession, heldBy, Happening.heldFor, Option.isSome_filter]
  cases lastIssued Tokens.sessionName log <;> simp

/-- An event that brings a session token is the arrival of an answer to a request in flight. -/
theorem arrives_of_hasSession_step {event : Event} (none : shared.tokens.hasSession = false)
    (held : (shared.step event).tokens.hasSession = true) :
    ∃ position answer flight, event = .arrives position answer ∧
      shared.flights[position]? = some flight := by
  cases event with
  | begins request =>
      rw [step_tokens, happenings] at held
      split at held <;> simp [Tokens.follow, none] at held
  | arrives position answer =>
      by_cases there : position < shared.flights.length
      · exact ⟨position, answer, _, rfl, List.getElem?_eq_getElem there⟩
      · simp [step, there, none] at held
  | fails position => simp [step, landed, none] at held
  | clears => simp [step, dropped, Tokens.empty, Tokens.hasSession] at held

/-- If a session token comes to be held, it does so at some first event. -/
theorem exists_first {start : SharedClient} {events : List Event}
    (none : start.tokens.hasSession = false)
    (held : (start.run events).tokens.hasSession = true) :
    ∃ earlier event later, events = earlier ++ event :: later ∧
      (∀ front back, earlier = front ++ back → (start.run front).tokens.hasSession = false) ∧
      ((start.run earlier).step event).tokens.hasSession = true := by
  induction events generalizing start with
  | nil => exact absurd held (by simp [none])
  | cons event rest ih =>
      cases now : (start.step event).tokens.hasSession with
      | true =>
          refine ⟨[], event, rest, rfl, ?_, now⟩
          intro front back split
          obtain ⟨rfl, -⟩ := List.append_eq_nil_iff.mp split.symm
          exact none
      | false =>
          obtain ⟨earlier, first, later, rfl, before, brought⟩ := ih now held
          refine ⟨event :: earlier, first, later, rfl, ?_, brought⟩
          intro front back split
          cases front with
          | nil => exact none
          | cons other front =>
              obtain ⟨rfl, below⟩ := List.cons.inj split
              exact before front back below

/-- The first session token after a drop is brought by an answer to a request that was in flight
at the drop, or that needs no session. -/
theorem exists_arrival {events : List Event}
    (held : (shared.dropped.run events).tokens.hasSession = true) :
    ∃ earlier position answer later flight, events = earlier ++ .arrives position answer :: later ∧
      (shared.dropped.run earlier).flights[position]? = some flight ∧
      (flight ∈ shared.flights ∨ flight.request.anonymous = true) := by
  obtain ⟨earlier, event, later, rfl, before, brought⟩ := exists_first rfl held
  obtain ⟨position, answer, flight, rfl, there⟩ :=
    arrives_of_hasSession_step (before earlier [] (by simp)) brought
  refine ⟨earlier, position, answer, later, flight, rfl, there, ?_⟩
  rcases mem_flights_run (List.mem_of_getElem? there) with first | ⟨front, back, split, admitted⟩
  · exact .inl first
  · -- had it needed a session, one would have been held when it was begun
    refine .inr (Bool.not_eq_false _ ▸ fun guarded => ?_)
    have sessionThen := admitted.allowed guarded
    rw [before front _ split] at sessionThen
    cases sessionThen

/-- With nothing in flight, callers that only begin requests which need a session get nowhere. -/
theorem run_of_guarded {events : List Event} (landed : shared.flights = [])
    (none : shared.tokens = .empty)
    (guarded : ∀ request, .begins request ∈ events → request.anonymous = false) :
    shared.run events = shared := by
  induction events with
  | nil => rfl
  | cons event rest ih =>
      have still : shared.step event = shared := by
        obtain ⟨session, tokens, flights⟩ := shared
        cases event with
        | begins request =>
            apply step_refused (guarded request List.mem_cons_self)
            rw [none]
            rfl
        | arrives position answer => simp_all [step]
        | fails position => simp_all [step, SharedClient.landed]
        | clears => simp_all [step, dropped]
      rw [run_cons, still]
      exact ih fun request member => guarded request (List.mem_cons_of_mem event member)

/-- What holds of a shared client after any events that follow a drop of the tokens. -/
structure Since (shared : SharedClient) (events : List Event) : Prop where
  /-- The tokens held are the ones issued last since the drop, if any; -/
  held : (shared.dropped.run events).tokens = heldBy (shared.dropped.log events)
  /-- in particular a session is held exactly if the last answer to set one issued it. -/
  revived_iff : (shared.dropped.run events).tokens.hasSession = true ↔
    ∃ value, value ≠ "" ∧
      lastIssued Tokens.sessionName (shared.dropped.log events) = some value
  /-- The first such answer was to a request that was already in flight, or that needs none. -/
  blamed : (shared.dropped.run events).tokens.hasSession = true →
    ∃ earlier position answer later flight, events = earlier ++ .arrives position answer :: later ∧
      (shared.dropped.run earlier).flights[position]? = some flight ∧
      (flight ∈ shared.flights ∨ flight.request.anonymous = true)
  /-- While no session is held, a request that needs one is denied before it goes out. -/
  denied : (shared.dropped.run events).tokens.hasSession = false →
    ∀ request : Request, request.anonymous = false →
      (shared.dropped.run events).step (.begins request) = shared.dropped.run events ∧
      ∀ url, shared.session.resolve request.path = .ok url →
        (shared.dropped.run events).begin? request = .error .notLoggedIn
  /-- If nothing was in flight, nothing happens until a request that needs no session is begun. -/
  quiet : shared.flights = [] →
    (∀ request, .begins request ∈ events → request.anonymous = false) →
    shared.dropped.run events = shared.dropped

theorem since_dropped (shared : SharedClient) (events : List Event) : Since shared events where
  held := tokens_dropped_run shared events
  revived_iff := by rw [tokens_dropped_run, hasSession_heldBy_iff]
  blamed := exists_arrival
  denied := by
    intro none request guarded
    refine ⟨step_refused guarded none, fun url resolved => ?_⟩
    have same : (shared.dropped.run events).session = shared.session := run_session _ events
    simp [begin?, Client.prepare, same, resolved, guarded, none, bind, Except.bind, throw,
      throwThe, MonadExceptOf.throw]
  quiet := fun landed => run_of_guarded landed rfl

/-- A list is begun, the logout is over, and then the list is answered: the client is logged in
again, under the session alone, and the next list goes out. -/
theorem late_answer_revives_session :
    (Client.visitor []).map (fun client =>
      let login := Client.loginRequest "admin" "secret"
      let list := Request.get Client.alarmsPath
      let loggedOut := client.shared.run [.begins login,
        .arrives 0 ⟨200, Client.bothTokens, [], true, []⟩, .begins list,
        .begins Client.logoutRequest, .arrives 1 ⟨200, [], [], true, []⟩, .clears]
      let late := loggedOut.step
        (.arrives 0 ⟨200, [("set-cookie", "unifises=def789")], [], true, []⟩)
      (loggedOut.tokens, (loggedOut.begin? list).toBool, late.tokens,
        (late.step (.begins list)).flights.map fun flight => flight.sent.valuesOf "cookie")) =
    some (⟨none, none⟩, false, ⟨some "def789", none⟩, [["unifises=def789"]]) := by
  decide +kernel

end SharedClient

end NetConsole
