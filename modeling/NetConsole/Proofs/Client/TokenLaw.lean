import NetConsole.Proofs.Client.Calls

/-!
# The law of tokens

Whatever calls are made on a client, in whatever order and whatever comes back: the tokens held are
those issued last since the last reset, every request bears exactly what is held when it goes out,
and nothing but a login or a logout goes out without a session token. One turn takes the tokens
through its own log; a run of turns takes them through the logs one after another.
-/

set_option autoImplicit false

namespace NetConsole

open Operation
open Happening (exchanges Borne heldBy)

/-! ## Turns -/

/-- One call with the clients before and after it, and how it ended. -/
structure Turn where
  call : Call
  before : Client
  result : Except ClientError Unit
  after : Client

/-- What comes of a call on a client. -/
def Call.turn (call : Call) (before : Client) : Turn :=
  { call, before, result := (call.operation.run before).1, after := (call.operation.run before).2 }

namespace Turn

/-- The requests that went out during a turn. -/
def news (turn : Turn) : List Sent := turn.after.wire.sent.drop turn.before.wire.sent.length

/-- What happened during a turn: the reset that it begins with, its requests with what came back,
and the reset that it ends with. -/
def log (turn : Turn) : List Happening :=
  turn.call.resetFirst ++ exchanges turn.news turn.before.wire.replies ++
    turn.call.resetLast turn.result

/-- The tokens follow the log of a turn, and its requests bear them. -/
structure Follows (turn : Turn) : Prop where
  session : turn.after.session = turn.before.session
  sent : turn.after.wire.sent = turn.before.wire.sent ++ turn.news
  replies : turn.after.wire.replies = turn.before.wire.replies.drop turn.news.length
  tokens : turn.after.tokens = turn.before.tokens.after turn.log
  borne : Borne (!turn.call.isAccount) turn.before.tokens turn.log
  counted : turn.result = .ok () → turn.news.length = turn.call.requests
  worded : ∃ tried, turn.after.attempts = turn.before.attempts ++ tried ∧
    List.SublistForall₂ (·.Words turn.before.session ·) turn.news tried

theorem news_eq {turn : Turn} {news : List Sent}
    (sent : turn.after.wire.sent = turn.before.wire.sent ++ news) : turn.news = news := by
  rw [Turn.news, sent, List.drop_left]

end Turn

private theorem Call.borne_resetFirst (call : Call) (guarded : Bool) (tokens : Tokens) :
    Borne guarded tokens call.resetFirst := by
  cases call <;> first | trivial | exact ⟨fun _ same => (nomatch same), trivial⟩

private theorem Call.borne_resetLast (call : Call) (result : Except ClientError Unit)
    (guarded : Bool) (tokens : Tokens) : Borne guarded tokens (call.resetLast result) := by
  unfold Call.resetLast
  split
  · exact ⟨fun _ same => (nomatch same), trivial⟩
  · exact ⟨fun _ same => (nomatch same), trivial⟩
  · trivial

/-- A turn follows its log if between the resets it begins and ends with it got ahead on the
wire. -/
theorem Turn.follows_of_advances {turn : Turn} {start between : Client} {news : List Sent}
    (begins : start =
      { turn.before with tokens := turn.before.tokens.after turn.call.resetFirst })
    (advances : Advances (!turn.call.isAccount) start between news)
    (ends : turn.after =
      { between with tokens := between.tokens.after (turn.call.resetLast turn.result) })
    (counted : turn.result = .ok () → news.length = turn.call.requests) : turn.Follows := by
  subst begins
  have sent : turn.after.wire.sent = turn.before.wire.sent ++ news := by
    rw [ends]
    exact advances.sent
  have same : turn.news = news := news_eq sent
  have logged : turn.log = turn.call.resetFirst ++ exchanges news turn.before.wire.replies ++
      turn.call.resetLast turn.result := by
    rw [Turn.log, same]
  constructor
  · rw [ends]
    exact advances.session
  · rw [same]
    exact sent
  · rw [same, ends]
    exact advances.replies
  · have tokens := advances.tokens
    dsimp only at tokens
    rw [logged, Tokens.after_append, Tokens.after_append, ← tokens, ends]
  · rw [logged]
    exact ((turn.call.borne_resetFirst _ _).append advances.borne).append
      (turn.call.borne_resetLast _ _ _)
  · rw [same]
    exact counted
  · rw [same, ends]
    exact advances.worded

private theorem Call.turn_follows_ordinary {call : Call} (ordinary : call.isAccount = false)
    {before : Client} (proper : before.tokens.Proper) : (call.turn before).Follows := by
  obtain ⟨news, advances, counted⟩ := Call.makes_operation ordinary before proper
  have first : call.resetFirst = [] := by
    cases call <;> first | rfl | cases ordinary
  have last : call.resetLast (call.turn before).result = [] := by
    cases call <;> first | rfl | cases ordinary
  have guarded : (!call.isAccount) = true := by
    rw [ordinary]
    rfl
  rw [← guarded] at advances
  refine Turn.follows_of_advances ?_ advances ?_ (counted ())
  · change before = { before with tokens := before.tokens.after call.resetFirst }
    rw [first]
    rfl
  · change _ = { (call.turn before).after with
      tokens := (call.turn before).after.tokens.after (call.resetLast (call.turn before).result) }
    rw [last]
    rfl

private theorem Call.turn_follows_login (username password : String) (before : Client) :
    ((Call.login username password).turn before).Follows := by
  have makes : Makes false 1 (Client.executeShape Client.loginShape
      (Client.loginRequest username password)) := Client.makes_executeShape _ fun same => by cases same
  obtain ⟨news, advances, counted⟩ := makes { before with tokens := .empty } .empty
  have spared := Client.spares_executeShape Client.loginShape
    (Client.loginRequest username password) { before with tokens := .empty }
  have ran : (Call.login username password).operation.run before = _ := run_ending _ before
  rw [Client.run_login] at ran
  rcases executed : (Client.executeShape Client.loginShape
    (Client.loginRequest username password)).run { before with tokens := .empty }
    with ⟨result, between⟩
  rw [executed] at advances counted spared ran
  cases result with
  | error cause =>
      -- the request failed, and no failure of a request passes for one of the login itself
      have ended : ((Call.login username password).turn before).result = .error cause :=
        congrArg Prod.fst ran
      have left : ((Call.login username password).turn before).after = between :=
        congrArg Prod.snd ran
      refine Turn.follows_of_advances rfl advances ?_ ?_
      · rw [left, ended]
        cases cause with
        | authentication message => exact absurd rfl (spared message)
        | _ => rfl
      · rw [ended]
        intro same
        cases same
  | ok pair =>
      dsimp only at ran
      cases missing : Client.missingToken between.tokens with
      | some message =>
          rw [missing] at ran
          have ended : ((Call.login username password).turn before).result =
            .error (.authentication message) := congrArg Prod.fst ran
          have left : ((Call.login username password).turn before).after =
            { between with tokens := .empty } := congrArg Prod.snd ran
          refine Turn.follows_of_advances rfl advances ?_ ?_
          · rw [left, ended]
            rfl
          · rw [ended]
            intro same
            cases same
      | none =>
          rw [missing] at ran
          have ended : ((Call.login username password).turn before).result = .ok () :=
            congrArg Prod.fst ran
          have left : ((Call.login username password).turn before).after = between :=
            congrArg Prod.snd ran
          refine Turn.follows_of_advances rfl advances ?_ ?_
          · rw [left, ended]
            rfl
          · exact fun _ => counted pair rfl

private theorem Call.turn_follows_logout {before : Client} (proper : before.tokens.Proper) :
    (Call.logout.turn before).Follows := by
  have makes : Makes false 1 (Client.executeBytes Client.logoutRequest) :=
    Client.makes_executeBytes fun same => by cases same
  obtain ⟨news, advances, counted⟩ := makes before proper
  have ran : Call.logout.operation.run before = _ := Client.run_logout before
  rcases executed : (Client.executeBytes Client.logoutRequest).run before with ⟨result, between⟩
  rw [executed] at advances counted ran
  cases result with
  | error cause =>
      have ended : (Call.logout.turn before).result = .error cause := congrArg Prod.fst ran
      have left : (Call.logout.turn before).after = between := congrArg Prod.snd ran
      refine Turn.follows_of_advances rfl advances ?_ ?_
      · rw [left, ended]
        rfl
      · rw [ended]
        intro same
        cases same
  | ok pair =>
      have ended : (Call.logout.turn before).result = .ok () := congrArg Prod.fst ran
      have left : (Call.logout.turn before).after = { between with tokens := .empty } :=
        congrArg Prod.snd ran
      refine Turn.follows_of_advances rfl advances ?_ ?_
      · rw [left, ended]
        rfl
      · exact fun _ => counted pair rfl

theorem Call.turn_follows (call : Call) {before : Client} (proper : before.tokens.Proper) :
    (call.turn before).Follows := by
  cases ordinary : call.isAccount with
  | false => exact Call.turn_follows_ordinary ordinary proper
  | true =>
      cases call with
      | login username password => exact Call.turn_follows_login username password before
      | logout => exact Call.turn_follows_logout proper
      | _ => cases ordinary

theorem Turn.Follows.proper {turn : Turn} (follows : turn.Follows)
    (start : turn.before.tokens.Proper) : turn.after.tokens.Proper := by
  rw [follows.tokens, Turn.log, Tokens.after_append, Tokens.after_append]
  have began : (turn.before.tokens.after turn.call.resetFirst).Proper := by
    cases turn.call <;> first | exact start | exact .empty
  have went := Happening.proper_after_exchanges began turn.news turn.before.wire.replies
  unfold Call.resetLast
  split
  · exact .empty
  · exact .empty
  · exact went

/-! ## Runs -/

/-- The client after calls. -/
def Call.clientAfter (calls : List Call) (client : Client) : Client :=
  calls.foldl (fun client call => (call.turn client).after) client

/-- The logs of calls made one after another. -/
def Call.logOf : List Call → Client → List Happening
  | [], _ => []
  | call :: rest, client => (call.turn client).log ++ logOf rest (call.turn client).after

/-- Over a run the tokens follow the logs of its turns, one after another. -/
theorem Call.tokens_clientAfter (calls : List Call) {client : Client}
    (proper : client.tokens.Proper) :
    (clientAfter calls client).tokens = client.tokens.after (logOf calls client) ∧
      (clientAfter calls client).tokens.Proper := by
  induction calls generalizing client with
  | nil => exact ⟨rfl, proper⟩
  | cons call rest ih =>
      have follows := call.turn_follows proper
      obtain ⟨later, properLater⟩ := ih (follows.proper proper)
      refine ⟨?_, properLater⟩
      have tokens : (call.turn client).after.tokens = client.tokens.after (call.turn client).log :=
        follows.tokens
      rw [logOf, Tokens.after_append, ← tokens]
      exact later

/-- The law that a turn keeps, after a log of what happened before it. -/
structure TokenLaw (history : List Happening) (turn : Turn) : Prop where
  /-- what went out is added to what had gone out, -/
  sent : turn.after.wire.sent = turn.before.wire.sent ++ turn.news
  /-- and each request used up the reply that was waiting for it -/
  replies : turn.after.wire.replies = turn.before.wire.replies.drop turn.news.length
  /-- the tokens held are the ones issued last since the last reset -/
  held : turn.after.tokens = heldBy (history ++ turn.log)
  /-- a request bears the tokens that were held just before it -/
  borne : ∀ earlier sent later, turn.log = earlier ++ .request sent :: later →
    sent.Bears (heldBy (history ++ earlier))
  /-- other requests than those of a login or a logout go out only under a session token -/
  guarded : turn.call.isAccount = false → ∀ earlier sent later,
    turn.log = earlier ++ .request sent :: later → (heldBy (history ++ earlier)).hasSession = true
  /-- without one, the call fails before it sends anything -/
  refused : turn.call.isAccount = false → turn.before.tokens.hasSession = false →
    turn.news = [] ∧ ∃ cause : ClientError, cause.isLocal = true ∧ turn.result = .error cause
  /-- a call that succeeds has made all of its requests -/
  counted : turn.result = .ok () → turn.news.length = turn.call.requests

/-- The law holds of every turn of every run that begins with a fresh client. -/
theorem Call.tokenLaw (session : Session) (wire : Wire) (calls : List Call) (call : Call) :
    TokenLaw (logOf calls (.fresh session wire))
      (call.turn (clientAfter calls (.fresh session wire))) := by
  obtain ⟨before, proper⟩ := Call.tokens_clientAfter calls
    (show (Client.fresh session wire).tokens.Proper from .empty)
  have follows := call.turn_follows proper
  have held (earlier : List Happening) : heldBy (logOf calls (.fresh session wire) ++ earlier) =
      (clientAfter calls (.fresh session wire)).tokens.after earlier := by
    rw [← Tokens.empty_after, Tokens.after_append, before]
    rfl
  constructor
  · exact follows.sent
  · exact follows.replies
  · rw [held]
    exact follows.tokens
  · intro earlier sent later split
    rw [held]
    exact (follows.borne.request split).1
  · intro ordinary earlier sent later split
    rw [held]
    refine (follows.borne.request split).2 ?_
    rw [ordinary]
    rfl
  · intro ordinary none
    obtain ⟨cause, isLocal, failed, wire, -⟩ := Call.refuses_operation ordinary _ none
    refine ⟨Turn.news_eq ?_, cause, isLocal, failed⟩
    rw [List.append_nil]
    exact congrArg Wire.sent wire
  · exact follows.counted

end NetConsole
