import NetConsole.Proofs.Client.Happening
import NetConsole.Proofs.Client.Operation
import NetConsole.Proofs.Client.Tokens
import Mathlib.Data.List.Forall2

/-!
# Requests and the tokens they bear

What a request bears as it goes out, and what comes back: the tokens held, the words of the request
that was asked for, and the cookies of the answer. `Borne` says of a series of requests and answers
that each request bore the tokens that the happenings before it left, and `Advances` says that a
client got ahead by such a series.
-/

set_option autoImplicit false

namespace NetConsole

/-! ## What a request bears -/

/-- The values of the headers of one name. -/
def Sent.valuesOf (sent : Sent) (name : String) : List String :=
  (sent.headers.filter (·.1 == name)).map (·.2)

/-- A request bears tokens: the cookie header lists those that are held, the session token first,
and the header for the CSRF token is there exactly if that token is held. -/
structure Sent.Bears (sent : Sent) (tokens : Tokens) : Prop where
  cookie : sent.valuesOf "cookie" = (Tokens.line tokens.session tokens.csrf).toList
  csrf : sent.valuesOf "x-csrf-token" = tokens.csrf.toList

/-- A request carries tokens: its cookie header is the line of both, its other header the CSRF
token, each without the blanks that no header arrives with. -/
structure Sent.Carries (sent : Sent) (tokens : Tokens) : Prop where
  cookie : sent.valuesOf "cookie" = (tokens.header?.map headerArrives).toList
  csrf : sent.valuesOf "x-csrf-token" = (tokens.csrf.map headerArrives).toList

theorem Sent.Carries.bears {sent : Sent} {tokens : Tokens} (carries : sent.Carries tokens)
    (proper : tokens.Proper) : sent.Bears tokens where
  cookie := by
    rw [carries.cookie, ← Tokens.header?_eq_line]
    cases header : tokens.header? with
    | none => rfl
    | some text => simp [(proper.header?_isTrimmed header).headerArrives_eq_self]
  csrf := by
    rw [carries.csrf]
    cases held : tokens.csrf with
    | none => rfl
    | some token => simp [(proper.csrf token held).headerArrives_eq_self]

/-- A request goes out as it is worded: under its method, to the place that its path and query
name, with its body. -/
structure Sent.Words (sent : Sent) (session : Session) (request : Request) :
    Prop where
  method : sent.method = request.method
  url : ∃ url, session.resolve request.path = .ok url ∧
    sent.url = Client.stripUser (url.appendPairs request.query)
  body : sent.body = request.body.getD []

namespace Client

/-- A request carries the headers that its tokens ask for, in the form in which headers arrive. -/
theorem outgoing_carries {session : Session} {tokens : Tokens} {request : Request} {url : Url}
    {sent : Sent} (goes : outgoing session tokens request url = .ok sent) :
    sent.Carries tokens := by
  unfold outgoing at goes
  split at goes
  · cases goes
  · dsimp only at goes
    split at goes
    · cases goes
    · split at goes
      · cases goes
      · cases goes
        constructor
        · simp only [Sent.valuesOf, headersOf, List.map_append, List.filter_append]
          cases basicAuthorization url <;> cases request.body <;> cases tokens.header? <;>
            cases tokens.csrf <;> simp
        · simp only [Sent.valuesOf, headersOf, List.map_append, List.filter_append]
          cases basicAuthorization url <;> cases request.body <;> cases tokens.header? <;>
            cases tokens.csrf <;> simp

/-- Whatever goes out under proper tokens bears them. -/
theorem outgoing_bears {session : Session} {tokens : Tokens} {request : Request} {url : Url}
    {sent : Sent} (proper : tokens.Proper)
    (goes : outgoing session tokens request url = .ok sent) : sent.Bears tokens :=
  (outgoing_carries goes).bears proper

theorem outgoing_words {session : Session} {tokens : Tokens} {request : Request} {url : Url}
    {sent : Sent} (resolved : session.resolve request.path = .ok url)
    (goes : outgoing session tokens request url = .ok sent) : sent.Words session request := by
  unfold outgoing at goes
  dsimp only at goes
  split at goes
  · cases goes
  · split at goes
    · cases goes
    · split at goes
      · cases goes
      · cases goes
        exact ⟨rfl, ⟨url, resolved, rfl⟩, rfl⟩

theorem prepare_eq_ok {session : Session} {tokens : Tokens} {request : Request} {url : Url}
    {sent : Sent} (prepared : prepare session tokens request = .ok (url, sent)) :
    (request.anonymous = false → tokens.hasSession = true) ∧
      session.resolve request.path = .ok url ∧ outgoing session tokens request url = .ok sent := by
  simp only [prepare, bind, Except.bind, pure, Except.pure] at prepared
  cases resolved : session.resolve request.path with
  | error cause =>
      rw [resolved] at prepared
      cases prepared
  | ok target =>
      rw [resolved] at prepared
      dsimp only at prepared
      split at prepared
      · cases prepared
      · next allowed =>
          cases goes : outgoing session tokens request target with
          | error cause =>
              rw [goes] at prepared
              cases prepared
          | ok made =>
              rw [goes] at prepared
              cases prepared
              refine ⟨fun guarded => ?_, rfl, goes⟩
              rw [guarded] at allowed
              simpa using allowed

end Client

/-! ## Requests and the answers to them -/

namespace Happening

/-- What the reply to a request brings: the headers of an answer arrive whatever becomes of its
body, and nothing else brings any. -/
def arrived : Option Reply → List Happening
  | some (.answer answer) => [.cookies answer.cookies]
  | _ => []

/-- Requests in their order, each followed by what the reply that was waiting for it brings. -/
def exchanges : List Sent → List Reply → List Happening
  | [], _ => []
  | sent :: more, replies =>
      .request sent :: (arrived replies.head? ++ exchanges more replies.tail)

theorem exchanges_append (first second : List Sent) (replies : List Reply) :
    exchanges (first ++ second) replies =
      exchanges first replies ++ exchanges second (replies.drop first.length) := by
  induction first generalizing replies with
  | nil => rfl
  | cons sent more ih =>
      simp only [List.cons_append, exchanges, ih, List.append_assoc, List.length_cons,
        ← List.drop_tail]

/-- What answers bring is trimmed, so they leave the tokens proper. -/
theorem proper_after_exchanges {tokens : Tokens} (proper : tokens.Proper) (news : List Sent)
    (replies : List Reply) : (tokens.after (exchanges news replies)).Proper := by
  induction news generalizing tokens replies with
  | nil => exact proper
  | cons sent more ih =>
      rw [exchanges, Tokens.after_cons, Tokens.after_append]
      apply ih
      cases replies with
      | nil => exact proper
      | cons reply rest =>
          cases reply with
          | answer answer =>
              exact proper.absorb fun cookie member => answer.isTrimmed_of_mem_cookies member
          | dropped => exact proper
          | silent => exact proper

/-- Every request of a log bears the tokens held just before it, which include the session token
if requests are guarded. -/
def Borne (guarded : Bool) : Tokens → List Happening → Prop
  | _, [] => True
  | tokens, happening :: log =>
      (∀ sent, happening = .request sent →
        sent.Bears tokens ∧ (guarded = true → tokens.hasSession = true)) ∧
      Borne guarded (tokens.follow happening) log

theorem Borne.append {guarded : Bool} {tokens : Tokens} {first second : List Happening}
    (before : Borne guarded tokens first) (next : Borne guarded (tokens.after first) second) :
    Borne guarded tokens (first ++ second) := by
  induction first generalizing tokens with
  | nil => exact next
  | cons happening rest ih => exact ⟨before.1, ih before.2 next⟩

theorem Borne.request {guarded : Bool} {tokens : Tokens} {log earlier later : List Happening}
    {sent : Sent} (borne : Borne guarded tokens log)
    (split : log = earlier ++ .request sent :: later) :
    sent.Bears (tokens.after earlier) ∧
      (guarded = true → (tokens.after earlier).hasSession = true) := by
  subst split
  induction earlier generalizing tokens with
  | nil => exact borne.1 sent rfl
  | cons happening rest ih => exact ih borne.2

theorem Borne.of_arrived (guarded : Bool) (tokens : Tokens) (reply : Option Reply) :
    Borne guarded tokens (arrived reply) := by
  cases reply with
  | none => trivial
  | some reply =>
      cases reply with
      | answer answer => exact ⟨fun _ same => (nomatch same), trivial⟩
      | dropped => trivial
      | silent => trivial

end Happening

open Happening

/-! ## Progress on the wire -/

/-- A client got ahead by requests that went out one after another. -/
structure Advances (guarded : Bool) (before after : Client) (news : List Sent) : Prop where
  session : after.session = before.session
  reaches : after.wire.reaches = before.wire.reaches
  sent : after.wire.sent = before.wire.sent ++ news
  replies : after.wire.replies = before.wire.replies.drop news.length
  tokens : after.tokens = before.tokens.after (exchanges news before.wire.replies)
  borne : Borne guarded before.tokens (exchanges news before.wire.replies)
  /-- what went out had been set out to, in the same order -/
  worded : ∃ tried, after.attempts = before.attempts ++ tried ∧
    List.SublistForall₂ (·.Words before.session ·) news tried

theorem sublistForall₂_append {α β : Type} {related : α → β → Prop}
    {first second : List α} {one two : List β} (front : List.SublistForall₂ related first one)
    (back : List.SublistForall₂ related second two) :
    List.SublistForall₂ related (first ++ second) (one ++ two) := by
  rw [List.sublistForall₂_iff] at front back ⊢
  obtain ⟨frontKept, frontRelated, frontWithin⟩ := front
  obtain ⟨backKept, backRelated, backWithin⟩ := back
  exact ⟨frontKept ++ backKept, List.rel_append frontRelated backRelated,
    frontWithin.append backWithin⟩

theorem exists_of_mem_sublistForall₂ {α β : Type} {related : α → β → Prop} {ones : List α}
    {others : List β} (sub : List.SublistForall₂ related ones others) {one : α}
    (member : one ∈ ones) : ∃ other ∈ others, related one other := by
  induction sub with
  | nil => cases member
  | cons here _ ih =>
      rcases List.mem_cons.mp member with rfl | later
      · exact ⟨_, List.mem_cons_self, here⟩
      · obtain ⟨other, there, same⟩ := ih later
        exact ⟨other, List.mem_cons_of_mem _ there, same⟩
  | cons_right _ ih =>
      obtain ⟨other, there, same⟩ := ih member
      exact ⟨other, List.mem_cons_of_mem _ there, same⟩

namespace Advances

theorem of_unsent {guarded : Bool} {before after : Client} (tried : List Request)
    (session : after.session = before.session) (wire : after.wire = before.wire)
    (tokens : after.tokens = before.tokens)
    (attempts : after.attempts = before.attempts ++ tried) :
    Advances guarded before after [] := by
  constructor
  · exact session
  · rw [wire]
  · rw [wire, List.append_nil]
  · rw [wire]
    rfl
  · exact tokens
  · trivial
  · exact ⟨tried, attempts, .nil⟩

theorem refl (guarded : Bool) (client : Client) : Advances guarded client client [] :=
  of_unsent [] rfl rfl rfl (List.append_nil _).symm

theorem proper {guarded : Bool} {before after : Client} {news : List Sent}
    (advances : Advances guarded before after news) (start : before.tokens.Proper) :
    after.tokens.Proper := by
  rw [advances.tokens]
  exact proper_after_exchanges start news before.wire.replies

theorem trans {guarded : Bool} {before between after : Client} {first second : List Sent}
    (one : Advances guarded before between first) (two : Advances guarded between after second) :
    Advances guarded before after (first ++ second) := by
  constructor
  · rw [two.session, one.session]
  · rw [two.reaches, one.reaches]
  · rw [two.sent, one.sent, List.append_assoc]
  · rw [two.replies, one.replies, List.drop_drop, List.length_append]
  · rw [two.tokens, one.tokens, one.replies, exchanges_append, Tokens.after_append]
  · rw [exchanges_append]
    have later := two.borne
    rw [one.tokens, one.replies] at later
    exact one.borne.append later
  · obtain ⟨oneTried, oneAttempts, oneWorded⟩ := one.worded
    obtain ⟨twoTried, twoAttempts, twoWorded⟩ := two.worded
    rw [one.session] at twoWorded
    refine ⟨oneTried ++ twoTried, ?_, sublistForall₂_append oneWorded twoWorded⟩
    rw [twoAttempts, oneAttempts, List.append_assoc]

end Advances

end NetConsole
