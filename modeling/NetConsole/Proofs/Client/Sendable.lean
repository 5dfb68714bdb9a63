import NetConsole.Proofs.Client.Akin
import NetConsole.Proofs.Client.Exchange

/-!
# What can be sent

A request goes out if the place that it is for is one on the network and if all its headers are
values that a header may have. Answers bring none but such values, so what could be sent before an
answer can be sent under the tokens after it as well.
-/

set_option autoImplicit false

namespace NetConsole

/-! ## Header values -/

theorem isHeaderValue_append (front back : String) :
    isHeaderValue (front ++ back) = (isHeaderValue front && isHeaderValue back) := by
  simp [isHeaderValue]

theorem isHeaderValue_of_sublist {part whole : String}
    (within : part.toList.Sublist whole.toList) (valid : isHeaderValue whole = true) :
    isHeaderValue part = true := by
  unfold isHeaderValue at valid ⊢
  rw [List.all_eq_true] at valid ⊢
  exact fun c member => valid c (within.mem member)

theorem cookieOf_sublist {value : String} {cookie : String × String}
    (sets : cookieOf value = some cookie) : cookie.2.toList.Sublist value.toList := by
  unfold cookieOf at sets
  dsimp only at sets
  split at sets
  case h_1 => cases sets
  case h_2 first rest after =>
    split at sets
    case isTrue => cases sets
    case isFalse =>
      cases sets
      rw [String.toList_ofList]
      have tail : rest.Sublist (first :: rest) := List.sublist_cons_self first rest
      rw [← after] at tail
      exact (Text.trimChars_sublist rest).trans (tail.trans
        ((List.dropWhile_sublist _).trans (List.takeWhile_sublist _)))

/-- The headers of an answer have values that a header may have. -/
def Answer.IsSpoken (answer : Answer) : Prop :=
  ∀ header ∈ answer.headers, isHeaderValue header.2 = true

theorem Answer.IsSpoken.cookies {answer : Answer} (spoken : answer.IsSpoken) :
    ∀ cookie ∈ answer.cookies, isHeaderValue cookie.2 = true := by
  intro cookie member
  obtain ⟨header, among, sets⟩ := List.mem_filterMap.mp member
  exact isHeaderValue_of_sublist (cookieOf_sublist sets) (spoken header (List.mem_filter.mp among).1)

/-- Tokens that headers can bear. -/
abbrev Tokens.Sendable (tokens : Tokens) : Prop := tokens.Each (isHeaderValue · = true)

theorem Tokens.sendable_iff (tokens : Tokens) : tokens.Sendable ↔
    (∀ value, tokens.header? = some value → isHeaderValue value = true) ∧
      ∀ value, tokens.csrf = some value → isHeaderValue value = true := by
  have name : isHeaderValue "unifises=" = true := by decide
  have other : isHeaderValue "csrf_token=" = true := by decide
  have between : isHeaderValue "; csrf_token=" = true := by decide
  rw [header?_eq_line]
  obtain ⟨session, csrf⟩ := tokens
  constructor
  · rintro ⟨first, second⟩
    cases session <;> cases csrf <;> simp_all [line, isHeaderValue_append]
  · rintro ⟨whole, second⟩
    constructor
    · intro token held
      cases session <;> cases csrf <;> simp_all [line, isHeaderValue_append]
    · exact second

/-- What an answer issues can be sent as well. -/
theorem Tokens.Sendable.answered {tokens : Tokens} (sendable : tokens.Sendable) {answer : Answer}
    (spoken : answer.IsSpoken) : (tokens.absorb answer.cookies).Sendable :=
  sendable.absorb fun cookie member _ => spoken.cookies cookie member

/-! ## Wires -/

namespace Wire

/-- A wire as there are: connections depend on the origin, and answers have proper headers. -/
structure IsReal (wire : Wire) : Prop where
  byOrigin : wire.ByOrigin
  spoken : ∀ answer, .answer answer ∈ wire.replies → answer.IsSpoken

variable {wire : Wire} {sent : Sent}

theorem transmit_reached (reached : wire.reaches sent.url = true) : (wire.transmit sent).2 =
    { wire with replies := wire.replies.drop 1, sent := wire.sent ++ [sent] } := by
  unfold transmit
  rw [reached]
  rcases wire.replies with _ | ⟨_ | _ | _, rest⟩ <;> rfl

theorem transmit_answer_iff {answer : Answer} : (wire.transmit sent).1 = .answer answer ↔
    wire.reaches sent.url = true ∧ ∃ came rest, wire.replies = .answer came :: rest ∧
      answer = arriving sent.method came := by
  unfold transmit
  split
  case isTrue unreached =>
    constructor
    · intro impossible
      cases impossible
    · rintro ⟨reached, -⟩
      rw [reached] at unreached
      cases unreached
  case isFalse reached =>
    have reached : wire.reaches sent.url = true := by simpa using reached
    rcases wire.replies with _ | ⟨came | _ | _, rest⟩
    case cons.answer =>
      constructor
      · intro same
        cases same
        exact ⟨reached, came, rest, rfl, rfl⟩
      · rintro ⟨-, other, more, same, rfl⟩
        cases same
        rfl
    all_goals simp

end Wire

/-- What goes out is for a path, under a method and with a body, and carries tokens. -/
structure Sent.IsFor (sent : Sent) (session : Session) (tokens : Tokens) (method : Method)
    (path : String) (body : List UInt8) : Prop where
  method : sent.method = method
  url : ∃ url, session.resolve path = .ok url ∧ sent.url = Client.stripUser url
  body : sent.body = body
  carries : sent.Carries tokens

namespace Client

variable {session : Session} {tokens : Tokens} {request : Request} {url : Url} {sent : Sent}
  {client : Client}

/-- A request to a URL can be sent. -/
structure Sendable (session : Session) (tokens : Tokens) (url : Url) : Prop where
  host : hasHost url = true
  http : url.isHttp = true
  user : ∀ value, basicAuthorization url = some value → isHeaderValue value = true
  agent : isHeaderValue session.userAgent = true
  tokens : tokens.Sendable

/-- What can be sent to one URL can be sent to another of the same place, under any tokens that can
be sent. -/
theorem Sendable.again {more : Tokens} {place : Url} (sendable : Sendable session tokens url)
    (same : url.SamePlace place) (other : more.Sendable) : Sendable session more place := by
  constructor
  case host =>
    rw [← same.hasHost]
    exact sendable.host
  case http =>
    rw [← same.origin.isHttp]
    exact sendable.http
  case user =>
    rw [← same.basicAuthorization]
    exact sendable.user
  case agent => exact sendable.agent
  case tokens => exact other

theorem headersOf_all : (headersOf session tokens request url).all (isHeaderValue ·.2) = true ↔
    (∀ value, basicAuthorization url = some value → isHeaderValue value = true) ∧
      isHeaderValue session.userAgent = true ∧ tokens.Sendable := by
  have kind : isHeaderValue "application/json" = true := by decide
  rw [Tokens.sendable_iff]
  unfold headersOf
  cases basicAuthorization url <;> cases request.body <;> cases tokens.header? <;>
    cases tokens.csrf <;> simp [kind] <;> tauto

theorem outgoing_ok_iff : (∃ sent, outgoing session tokens request url = .ok sent) ↔
    Sendable session tokens url := by
  have http : (stripUser (url.appendPairs request.query)).isHttp = url.isHttp :=
    ((sameOrigin_stripUser _).trans (url.sameOrigin_appendPairs request.query)).isHttp
  have headers := @headersOf_all session tokens request url
  unfold outgoing
  dsimp only
  rw [http]
  constructor
  · rintro ⟨sent, goes⟩
    split at goes
    case isTrue => cases goes
    case isFalse host =>
      split at goes
      case isTrue => cases goes
      case isFalse valid =>
        split at goes
        case isTrue => cases goes
        case isFalse web =>
          obtain ⟨user, agent, sendable⟩ := headers.mp (by simpa using valid)
          exact ⟨by simpa using host, by simpa using web, user, agent, sendable⟩
  · rintro ⟨host, web, user, agent, sendable⟩
    have valid := headers.mpr ⟨user, agent, sendable⟩
    exact ⟨_, by simp [host, web, valid]; rfl⟩

theorem url_of_prepare (plain : request.query = [])
    (prepared : prepare session tokens request = .ok (url, sent)) : sent.url = stripUser url := by
  obtain ⟨-, resolved, goes⟩ := prepare_eq_ok prepared
  obtain ⟨place, found, full⟩ := (outgoing_words resolved goes).url
  rw [resolved] at found
  obtain rfl : url = place := Except.ok.inj found
  rw [full, plain]
  rfl

theorem isFor_of_prepare (plain : request.query = [])
    (prepared : prepare session tokens request = .ok (url, sent)) :
    sent.IsFor session tokens request.method request.path (request.body.getD []) := by
  obtain ⟨-, resolved, goes⟩ := prepare_eq_ok prepared
  have words := outgoing_words resolved goes
  exact ⟨words.method, ⟨url, resolved, url_of_prepare plain prepared⟩, words.body,
    outgoing_carries goes⟩

theorem prepare_of_sendable (resolved : session.resolve request.path = .ok url)
    (held : request.anonymous = false → tokens.hasSession = true)
    (sendable : Sendable session tokens url) :
    ∃ sent, prepare session tokens request = .ok (url, sent) := by
  obtain ⟨sent, goes⟩ := (@outgoing_ok_iff session tokens request url).mpr sendable
  have allowed : (!request.anonymous && !tokens.hasSession) = false := by
    cases named : request.anonymous with
    | true => rfl
    | false => simp [held named]
  refine ⟨sent, ?_⟩
  rw [prepare, resolved]
  simp only [bind, Except.bind, allowed, goes]
  rfl

/-! ## What exchanges leave -/

theorem session_exchange (request : Request) (client : Client) :
    ((exchange request).run client).2.session = client.session := by
  rw [run_exchange]
  cases prepare client.session client.tokens request with
  | error cause => rfl
  | ok pair =>
      obtain ⟨url, sent⟩ := pair
      dsimp only
      rcases client.wire.transmit sent with ⟨delivery, wire⟩
      cases delivery <;> rfl

theorem reaches_exchange (request : Request) (client : Client) :
    ((exchange request).run client).2.wire.reaches = client.wire.reaches := by
  rw [wire_exchange]
  cases prepare client.session client.tokens request with
  | error cause => rfl
  | ok pair =>
      obtain ⟨url, sent⟩ := pair
      dsimp only
      rcases client.wire.transmit_cases sent with stays | ⟨delivery, goesOut, -⟩
      · rw [stays]
      · rw [goesOut]

/-- A request that is prepared goes out if a connection can be made. -/
theorem exchange_reached (prepared : prepare client.session client.tokens request = .ok (url, sent))
    (reached : client.wire.reaches sent.url = true) :
    ((exchange request).run client).2.wire.sent = client.wire.sent ++ [sent] := by
  rw [wire_exchange, prepared]
  dsimp only
  rw [Wire.transmit_reached reached]

end Client

end NetConsole
