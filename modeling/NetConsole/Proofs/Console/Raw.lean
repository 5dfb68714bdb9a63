import NetConsole.Proofs.Client.Visits
import NetConsole.Proofs.Console.Confirmation

/-!
# Requests in the user's own words

A request that the user words goes out between the login and the logout as he worded it, and the
body of its answer is printed as it came if the answer is one of success. The format of output has
no part in that, nor whether output is wanted. Data that are not JSON are kept back.
-/

set_option autoImplicit false

namespace NetConsole.Console

open Stepwise Operation

/-! ## Writing an answer -/

/-- The request that a command words. -/
def RawCommand.request (command : RawCommand) : Request :=
  { method := command.method, path := command.path, body := command.data.map Text.bytes }

theorem RawCommand.visit_of_error {command : RawCommand} {data : String} {reason : Json.Reason}
    (given : command.data = some data) (read : Json.parseAs .any data = .error reason) :
    command.visit = throw (.json reason) := by
  unfold RawCommand.visit
  rw [given, Option.map_some, read]

theorem RawCommand.visit_of_ok {command : RawCommand}
    (readable : ∀ data, command.data = some data → ∃ value, Json.parseAs .any data = .ok value) :
    command.visit = writing command.request := by
  unfold RawCommand.visit RawCommand.request
  cases given : command.data with
  | none => rfl
  | some data =>
      obtain ⟨value, read⟩ := readable data given
      rw [Option.map_some, read]
      rfl

theorem run_writing (request : Request) (visit : Visit) : (writing request).run visit =
    match (Client.executeWriting request visit.client).1 with
    | (bytes, .ok _) => (.ok (), { visit with
        client := (Client.executeWriting request visit.client).2
        output := visit.output ++ bytes ++ Text.bytes "\n" })
    | (bytes, .error cause) => (.error (.ofClient cause), { visit with
        client := (Client.executeWriting request visit.client).2
        output := visit.output ++ bytes }) := by
  rcases written : Client.executeWriting request visit.client with ⟨⟨bytes, outcome⟩, after⟩
  have ran : (Client.executeWriting request).run visit.client = ((bytes, outcome), after) := written
  rw [writing, run_bind, run_get]
  dsimp only
  rw [ran]
  cases outcome <;> rfl

theorem client_writing (request : Request) (visit : Visit) :
    ((writing request).run visit).2.client =
      ((Client.exchange request).run visit.client).2 := by
  rw [run_writing, ← Client.after_executeWriting]
  rcases Client.executeWriting request visit.client with ⟨⟨bytes, _ | _⟩, after⟩ <;> rfl

theorem run_writing_of_hears {request : Request} {visit : Visit} {url : Url} {answer : Answer}
    (hears : visit.client.Hears request url answer) (complete : answer.complete = true) :
    (writing request).run visit =
      if answer.succeeded then (.ok (), { visit with
        client := ((Client.exchange request).run visit.client).2
        output := visit.output ++ answer.body ++ Text.bytes "\n" })
      else (.error (.ofClient (.refused (Client.refusalOf request url answer))), { visit with
        client := ((Client.exchange request).run visit.client).2 }) := by
  rw [run_writing, Client.executeWriting_of_hears hears complete]
  by_cases succeeded : answer.succeeded = true
  · rw [if_pos succeeded, if_pos succeeded]
  · rw [if_neg succeeded, if_neg succeeded]
    dsimp only
    rw [List.append_nil]

theorem run_writing_of_error {request : Request} {visit : Visit} {cause : ClientError}
    (failed : ((Client.exchange request).run visit.client).1 = .error cause) :
    (writing request).run visit = (.error (.ofClient cause), { visit with
      client := ((Client.exchange request).run visit.client).2 }) := by
  rw [run_writing, Client.run_executeWriting, Client.run_send, failed]
  simp only [bind, Except.bind, List.append_nil]

/-! ## Visits that got in -/

variable {options : Options} {config : Config} {scene : Scene} {wanted : Connection}
  {session : Session} {files : Files} {store : Option Store}

/-- After a login that succeeds, the run goes by what the command does, and logs out. -/
theorem Ready.run_entered {command : RawCommand} {p : Presentation}
    (ready : Ready options config scene wanted session files store)
    (login : ((Call.login wanted.username wanted.password).turn
      (.fresh session scene.wire)).result = .ok ()) :
    let entered := ((Call.login wanted.username wanted.password).turn
      (.fresh session scene.wire)).after
    let inside := command.visit.run ⟨entered, store, []⟩
    (ControllerCommand.raw command).run p options config scene =
      { inside.2 with client := (Call.logout.turn inside.2.client).after }.outcome files inside.1 := by
  dsimp only
  rw [ready.run, run_visitController]
  dsimp only
  rw [login]
  dsimp only [ControllerCommand.visit]
  generalize ((Call.login wanted.username wanted.password).turn
    (.fresh session scene.wire)).after = entered
  have whole := command.visit_ne_overflow ⟨entered, store, []⟩
  rcases ran : command.visit.run ⟨entered, store, []⟩ with ⟨result, inside⟩
  rw [ran] at whole
  dsimp only
  rw [parting_of_ne whole]
  rfl

/-- A store that was opened can be written as it is. -/
theorem Ready.flush_ok (ready : Ready options config scene wanted session files store)
    (wellNamed : scene.files.WellNamed) : (flushStore store files).2 = .ok () := by
  have opened := ready.opened
  unfold openStore at opened
  split at opened
  case isFalse =>
    cases opened
    rfl
  case isTrue =>
    rcases found : Store.open? scene.files (storeDirectory options config scene.home) with
      ⟨after, cause | one⟩
    · rw [found] at opened
      cases opened
    · rw [found] at opened
      cases opened
      obtain ⟨written, flushed, -⟩ :=
        (Store.rooted_of_open? found).1.exists_flush (Store.short_of_open? found wellNamed)
      rw [flushStore, flushed]

theorem Ready.isAt (ready : Ready options config scene wanted session files store) :
    session.IsAt wanted.controller := by
  have built := ready.client
  simp only [Connection.client, bind_eq_ok] at built
  obtain ⟨-, -, other, opened, same⟩ := built
  cases same
  exact Session.isAt_of_open? opened

/-- A run that logs in, under whose session a path leads to a web address. -/
structure LeadsTo (options : Options) (scene : Scene) (path : String) (wanted : Connection)
    (session : Session) (url : Url) : Prop where
  ready : ∃ config files store,
    Config.load scene.files scene.environment scene.home = .ok config ∧
      Ready options config scene wanted session files store
  login : ((Call.login wanted.username wanted.password).turn
    (.fresh session scene.wire)).result = .ok ()
  resolved : session.resolve path = .ok url
  http : url.isHttp = true

/-- All that was set out to be made has gone out, as it was worded and in the same order. -/
def Outcome.SendsAll (outcome : Outcome) (session : Session) (scene : Scene) : Prop :=
  ∃ news, outcome.sent = scene.wire.sent ++ news ∧
    List.Forall₂ (·.Words session ·) news outcome.attempts

theorem Outcome.sendsAll_of_visit {visit : Visit} {result : Except Failure Unit} {news : List Sent}
    (sent : visit.client.wire.sent = scene.wire.sent ++ news)
    (words : List.Forall₂ (·.Words session ·) news visit.client.attempts) :
    (visit.outcome files result).SendsAll session scene :=
  ⟨news, (Visit.outcome_sent files result visit).trans sent, by
    rw [Visit.outcome_attempts]
    exact words⟩

/-- A run that keeps back what is not JSON: it logs in and out, prints nothing and says why. -/
structure Withheld (reason : Json.Reason) (wanted : Connection) (session : Session) (scene : Scene)
    (outcome : Outcome) : Prop where
  attempts : outcome.attempts =
    [Client.loginRequest wanted.username wanted.password, Client.logoutRequest]
  sent : outcome.SendsAll session scene
  output : outcome.output = []
  result : outcome.result = .error (.json reason)

/-- A run that passes on what the user words: one request between the login and the logout. -/
structure Forwarded (request : Request) (url : Url) (wanted : Connection) (session : Session)
    (scene : Scene) (outcome : Outcome) : Prop where
  attempts : outcome.attempts =
    [Client.loginRequest wanted.username wanted.password, request, Client.logoutRequest]
  sent : scene.wire.reaches (Client.stripUser url) = true → outcome.SendsAll session scene
  /-- A whole answer of success is printed as it came, with the end of a line after it, and any other
  is told as the refusal that it is. -/
  answered : scene.wire.reaches (Client.stripUser url) = true →
    ∀ came, scene.wire.replies[1]? = some (.answer came) →
      (Wire.arriving request.method came).complete = true →
      let answer := Wire.arriving request.method came
      if answer.succeeded then
        outcome.output = answer.body ++ Text.bytes "\n" ∧ outcome.result = .ok ()
      else outcome.output = [] ∧
        outcome.result = .error (.ofClient (.refused (Client.refusalOf request url answer)))
  /-- Without an answer nothing is printed. -/
  unanswered : (scene.wire.reaches (Client.stripUser url) = true →
      ∀ came, scene.wire.replies[1]? ≠ some (.answer came)) →
    outcome.output = [] ∧ ∃ cause, outcome.result = .error (.ofClient cause)

section

variable {command : RawCommand} {url : Url} (p : Presentation)
  (ready : Ready options config scene wanted session files store)
  (login : ((Call.login wanted.username wanted.password).turn
    (.fresh session scene.wire)).result = .ok ())
  (real : scene.wire.IsReal)

include ready login real

theorem Ready.run_withheld {data : String} {reason : Json.Reason} (given : command.data = some data)
    (read : Json.parseAs .any data = .error reason) :
    Withheld reason wanted session scene
      ((ControllerCommand.raw command).run p options config scene) := by
  have entry := login_attempts wanted.username wanted.password (.fresh session scene.wire)
  obtain ⟨first, worded, wire, -, atHome⟩ := Client.exists_login real login
  obtain ⟨last, out, sent⟩ := atHome.exists_logout
  rw [ready.run_entered login]
  generalize ((Call.login wanted.username wanted.password).turn
    (.fresh session scene.wire)).after = entered at entry wire sent ⊢
  have visited : command.visit.run ⟨entered, store, []⟩ =
      (.error (.json reason), ⟨entered, store, []⟩) := by
    rw [RawCommand.visit_of_error given read]
    rfl
  rw [visited]
  have attempts : (Call.logout.turn entered).after.attempts =
      [Client.loginRequest wanted.username wanted.password, Client.logoutRequest] := by
    rw [logout_attempts, entry]
    rfl
  refine ⟨attempts, ?_, rfl, rfl⟩
  apply Outcome.sendsAll_of_visit
  case news => exact [first, last]
  case sent => simp [sent, wire, Client.fresh]
  case words =>
    rw [attempts]
    exact .cons worded (.cons out .nil)

theorem Ready.run_forwarded (wellNamed : scene.files.WellNamed)
    (resolved : session.resolve command.path = .ok url) (http : url.isHttp = true)
    (readable : ∀ data, command.data = some data → ∃ value, Json.parseAs .any data = .ok value) :
    Forwarded command.request url wanted session scene
      ((ControllerCommand.raw command).run p options config scene) := by
  have entry := login_attempts wanted.username wanted.password (.fresh session scene.wire)
  obtain ⟨first, worded, wire, loggedIn, atHome⟩ := Client.exists_login real login
  rw [ready.run_entered login]
  generalize ((Call.login wanted.username wanted.password).turn
    (.fresh session scene.wire)).after = entered at entry wire loggedIn atHome ⊢
  rw [command.visit_of_ok readable]
  have left := client_writing command.request ⟨entered, store, []⟩
  have attempts : (Call.logout.turn
      ((writing command.request).run ⟨entered, store, []⟩).2.client).after.attempts =
        [Client.loginRequest wanted.username wanted.password, command.request,
          Client.logoutRequest] := by
    rw [logout_attempts, left, Client.tries_exchange, entry]
    rfl
  have reaches : entered.wire.reaches = scene.wire.reaches := by rw [wire]; rfl
  -- the login used up the first reply, so the second one is for the request
  have waits : entered.wire.replies.head? = scene.wire.replies[1]? := by
    rw [wire, List.head?_drop]
    rfl
  constructor
  case attempts =>
    rw [Visit.outcome_attempts]
    exact attempts
  case sent =>
    intro reached
    rw [← reaches] at reached
    obtain ⟨own, passed, went⟩ := atHome.exists_sent ready.isAt command.request rfl
      (fun _ => loggedIn) resolved http reached
    obtain ⟨last, out, sent⟩ := (atHome.exchange command.request).exists_logout
    apply Outcome.sendsAll_of_visit
    case news => exact [first, own, last]
    case sent => simp [left, sent, went, wire, Client.fresh]
    case words =>
      rw [attempts]
      exact .cons worded (.cons passed (.cons out .nil))
  case answered =>
    intro reached came waiting complete answer
    rw [← reaches] at reached
    rw [← waits] at waiting
    have hears := atHome.hears ready.isAt command.request rfl (fun _ => loggedIn) resolved http
      reached waiting
    have ran := @run_writing_of_hears _ ⟨entered, store, []⟩ _ _ hears complete
    split at ran
    case isTrue succeeded =>
      -- the store is written after a success, which must not fail the run
      have written : (flushStore store files).2.mapError Failure.ofStore = .ok () := by
        rw [ready.flush_ok wellNamed]
        rfl
      rw [if_pos succeeded, ran]
      exact ⟨rfl, written⟩
    case isFalse failed =>
      rw [if_neg failed, ran]
      exact ⟨rfl, rfl⟩
  case unanswered =>
    intro silent
    rw [← reaches, ← waits] at silent
    have led : entered.session.resolve command.path = .ok url := by
      rw [atHome.own]
      exact resolved
    obtain ⟨cause, failed⟩ :=
      @Client.exists_error_of_silent entered command.request url led rfl silent
    rw [@run_writing_of_error _ ⟨entered, store, []⟩ _ failed]
    exact ⟨rfl, cause, rfl⟩

end

/-- A request in the user's own words is passed on as it is, and so is the answer to it, unless its
data are not JSON. -/
theorem Invocation.run_raw {options : Options} {command : RawCommand} {scene : Scene}
    {wanted : Connection} {session : Session} {url : Url}
    (leads : LeadsTo options scene command.path wanted session url) (real : scene.wire.IsReal)
    (wellNamed : scene.files.WellNamed) :
    (∀ data reason, command.data = some data → Json.parseAs .any data = .error reason →
      Withheld reason wanted session scene
        (Invocation.run ⟨options, .controller (.raw command)⟩ scene)) ∧
    ((∀ data, command.data = some data → ∃ value, Json.parseAs .any data = .ok value) →
      Forwarded command.request url wanted session scene
        (Invocation.run ⟨options, .controller (.raw command)⟩ scene)) := by
  obtain ⟨config, files, store, loaded, ready⟩ := leads.ready
  rw [run_eq_of_config loaded]
  exact ⟨fun data reason given read => ready.run_withheld _ leads.login real given read,
    fun readable => ready.run_forwarded _ leads.login real wellNamed leads.resolved leads.http
      readable⟩

/-- Two requests with data, in a run with one answer after the login: one with an array, and one
with what is no JSON. -/
theorem run_raw_sample :
    let scene := siteScene "7"
    let command (data : String) : RawCommand := ⟨.post, "/api/self", some data⟩
    ∃ wanted session url reason,
      LeadsTo siteListing.options scene "/api/self" wanted session url ∧ scene.wire.IsReal ∧
      scene.files.WellNamed ∧
      Forwarded (command "[1]").request url wanted session scene
        (Invocation.run ⟨siteListing.options, .controller (.raw (command "[1]"))⟩ scene) ∧
      (Invocation.run ⟨siteListing.options, .controller (.raw (command "[1]"))⟩ scene).output =
        Text.bytes "\x7b\"data\":[\x7b\"_id\":\"a\",\"n\":7\x7d]\x7d" ++ Text.bytes "\n" ∧
      Withheld reason wanted session scene
        (Invocation.run ⟨siteListing.options, .controller (.raw (command "["))⟩ scene) := by
  intro scene command
  let root : Url :=
    ⟨"http", some ⟨"", none, .ipv6 [0, 0, 0, 0, 0, 0, 0, 1], none⟩, .segments [""], none, none⟩
  let wanted : Connection := ⟨"default", root, "default", "u", "p", ⟨.system, 30⟩⟩
  let session : Session :=
    ⟨root, { root with path := .segments ["api", "s", "default", ""] }, "default", "unified/0.1.0"⟩
  let url : Url := { root with path := .segments ["api", "self"] }
  have opened : Session.open? root "default" = .ok session := by decide +kernel
  have ready : Ready siteListing.options .initial scene wanted session scene.files
      (some ⟨some "/db", []⟩) := by
    refine ⟨by decide +kernel, ?_, by decide +kernel⟩
    simp only [Connection.client, wanted, Transport.check, opened]
    rfl
  have leads : LeadsTo siteListing.options scene "/api/self" wanted session url :=
    ⟨⟨.initial, scene.files, some ⟨some "/db", []⟩, by decide +kernel, ready⟩, by decide +kernel,
      by decide +kernel, by decide +kernel⟩
  have real : scene.wire.IsReal := by
    refine ⟨fun _ _ _ => rfl, ?_⟩
    simp only [scene, siteScene, Answer.IsSpoken, List.mem_cons, List.not_mem_nil, or_false]
    rintro answer (⟨⟨⟩⟩ | ⟨⟨⟩⟩) <;> decide
  have wellNamed : scene.files.WellNamed := Files.wellNamed_of_entries (by decide +kernel)
  have array : Json.parseAs .any "[1]" = .ok (.array [.number (.integer 1)]) := by decide +kernel
  have broken : (Json.parseAs .any "[").toOption = none := by decide +kernel
  cases read : Json.parseAs .any "[" with
  | ok value =>
      rw [read] at broken
      cases broken
  | error reason =>
      have forwarded := (@Invocation.run_raw _ (command "[1]") _ _ _ _ leads real wellNamed).2 (by
        rintro _ ⟨⟩
        exact ⟨_, array⟩)
      refine ⟨wanted, session, url, reason, leads, real, wellNamed, forwarded, ?_, ?_⟩
      · exact (forwarded.answered rfl _ rfl rfl).1
      · exact (@Invocation.run_raw _ (command "[") _ _ _ _ leads real wellNamed).1 _ _ rfl read

end NetConsole.Console
