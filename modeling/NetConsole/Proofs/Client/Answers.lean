import NetConsole.Proofs.Client.Attempts
import NetConsole.Proofs.Client.Executions
import NetConsole.Proofs.Client.Listing
import NetConsole.Proofs.Client.Sendable
import NetConsole.Proofs.Records.Envelope

/-!
# What a list makes of an answer

A list succeeds exactly if its request is answered, the answer is one of success and whole, and its
body holds an envelope that the verdict does not refuse. Every other answer is told by the first of
these that fails.
-/

set_option autoImplicit false

namespace NetConsole

open Stepwise Operation Json

/-! ## Hearing -/

namespace Client

/-- A request is answered: under the session and the tokens held it can be sent, and the headers of
an answer come back. -/
structure Hears (client : Client) (request : Request) (url : Url) (answer : Answer) : Prop where
  resolved : client.session.resolve request.path = .ok url
  held : request.anonymous = false → client.isLoggedIn = true
  sendable : Sendable client.session client.tokens url
  reached : client.wire.reaches (stripUser (url.appendPairs request.query)) = true
  arrived : ∃ came rest, client.wire.replies = .answer came :: rest ∧
    answer = Wire.arriving request.method came

variable {request : Request} {client : Client} {url : Url} {answer : Answer}

theorem hears_iff : client.Hears request url answer ↔
    ∃ sent, prepare client.session client.tokens request = .ok (url, sent) ∧
      (client.wire.transmit sent).1 = .answer answer := by
  have goesFor {sent : Sent}
      (prepared : prepare client.session client.tokens request = .ok (url, sent)) :
      sent.url = stripUser (url.appendPairs request.query) ∧ sent.method = request.method := by
    obtain ⟨-, resolved, goes⟩ := prepare_eq_ok prepared
    have words := outgoing_words resolved goes
    obtain ⟨place, found, full⟩ := words.url
    rw [resolved] at found
    obtain rfl : url = place := Except.ok.inj found
    exact ⟨full, words.method⟩
  constructor
  · intro hears
    obtain ⟨sent, prepared⟩ := prepare_of_sendable hears.resolved hears.held hears.sendable
    obtain ⟨place, method⟩ := goesFor prepared
    refine ⟨sent, prepared, Wire.transmit_answer_iff.mpr ?_⟩
    rw [place, method]
    exact ⟨hears.reached, hears.arrived⟩
  · rintro ⟨sent, prepared, answered⟩
    obtain ⟨held, resolved, goes⟩ := prepare_eq_ok prepared
    obtain ⟨place, method⟩ := goesFor prepared
    rw [Wire.transmit_answer_iff, place, method] at answered
    exact ⟨resolved, held, outgoing_ok_iff.mp ⟨sent, goes⟩, answered.1, answered.2⟩

theorem exchange_ok_iff :
    ((exchange request).run client).1 = .ok (url, answer) ↔ client.Hears request url answer := by
  rw [hears_iff, run_exchange]
  cases prepare client.session client.tokens request with
  | error cause => simp
  | ok pair =>
      obtain ⟨place, sent⟩ := pair
      dsimp only
      rcases ran : client.wire.transmit sent with ⟨delivery, wire⟩
      cases delivery with
      | answer heard => simp [ran]
      | unreachable | dropped | timedOut => simp [ran]

theorem exists_hears {answer : Answer}
    (heard : ((exchange request).run client).1.toOption.map (·.2) = some answer) :
    ∃ url, client.Hears request url answer := by
  cases exchanged : ((exchange request).run client).1 with
  | error cause =>
      rw [exchanged] at heard
      cases heard
  | ok pair =>
      rw [exchanged] at heard
      cases heard
      exact ⟨pair.1, exchange_ok_iff.mp exchanged⟩

theorem Hears.spoken (hears : client.Hears request url answer) (real : client.wire.IsReal) :
    answer.IsSpoken := by
  obtain ⟨came, rest, waiting, rfl⟩ := hears.arrived
  have spoken : came.IsSpoken := by
    apply real.spoken
    rw [waiting]
    exact List.mem_cons_self
  unfold Wire.arriving
  split
  · exact spoken
  · exact spoken

theorem Hears.tokens (hears : client.Hears request url answer) :
    ((exchange request).run client).2.tokens = client.tokens.absorb answer.cookies := by
  obtain ⟨sent, prepared, answered⟩ := hears_iff.mp hears
  rw [run_exchange, prepared]
  dsimp only
  rcases ran : client.wire.transmit sent with ⟨delivery, wire⟩
  rw [ran] at answered
  obtain rfl : delivery = .answer answer := answered
  rfl

theorem Hears.unique {place : Url} {other : Answer} (one : client.Hears request url answer)
    (two : client.Hears request place other) : answer = other := by
  have same := (exchange_ok_iff.mpr one).symm.trans (exchange_ok_iff.mpr two)
  exact congrArg Prod.snd (Except.ok.inj same)

end Client

/-! ## Envelopes -/

/-- A verdict lets the records of an envelope through: its code is empty or `ok`. -/
def Verdict.Passes (verdict : Verdict) : Prop := verdict.code = "" ∨ verdict.code = "ok"

instance (verdict : Verdict) : Decidable verdict.Passes := inferInstanceAs (Decidable (_ ∨ _))

namespace Envelope

variable {α : Type} {envelope : Envelope α}

/-- The records of an envelope are let through, also by the want of a verdict. -/
def Accepts (envelope : Envelope α) : Prop :=
  ∀ verdict, envelope.verdict = some verdict → verdict.Passes

theorem accepted_eq (envelope : Envelope α) : envelope.accepted = match envelope.verdict with
    | none => .ok envelope.data
    | some verdict => if verdict.Passes then .ok envelope.data else .error (refusal verdict) := by
  unfold accepted
  cases envelope.verdict with
  | none => rfl
  | some verdict =>
      by_cases empty : verdict.code = ""
      · simp [Verdict.Passes, empty]
      · by_cases ok : verdict.code = "ok"
        · simp [Verdict.Passes, Verdict.isOk, ok]
        · simp [Verdict.Passes, Verdict.isOk, empty, ok]

theorem accepted_ok_iff {records : List α} :
    envelope.accepted = .ok records ↔ envelope.Accepts ∧ records = envelope.data := by
  rw [accepted_eq, Accepts]
  cases envelope.verdict with
  | none => simp [eq_comm]
  | some verdict =>
      by_cases passes : verdict.Passes
      · simp [passes, eq_comm]
      · simp [passes]

theorem accepted_error_iff {message : String} :
    envelope.accepted = .error message ↔ ∃ verdict, envelope.verdict = some verdict ∧
      ¬ verdict.Passes ∧ message = verdict.message.getD ("rc=" ++ verdict.code) := by
  rw [accepted_eq]
  cases envelope.verdict with
  | none => simp
  | some verdict =>
      by_cases passes : verdict.Passes
      · simp [passes]
      · simp [passes, refusal, eq_comm]

end Envelope

/-! ## Lists -/

variable {α : Type} [Record α]

/-- The tree of the text in which a value of the body is looked for. -/
def Answer.tree (answer : Answer) : Tree :=
  (Document.ofChars (Client.bodyText answer.body).toList).root

/-- An answer of success arrived as a whole and holds an envelope. -/
structure Answer.Holds (answer : Answer) (envelope : Envelope α) : Prop where
  succeeded : answer.succeeded = true
  complete : answer.complete = true
  decoded : ∃ value, parseAs (Envelope.shape (Record.shape α)) (Client.bodyText answer.body) =
    .ok value ∧ envelope = Envelope.ofJson value

/-- A record is read from a tree two levels inside an answer. -/
def ReadFrom (tree : Tree) (record : α) : Prop :=
  ∃ value, readShape (Record.shape α) Store.documentRoom tree = .ok value ∧
    record = Record.ofJson value

theorem Answer.Holds.unique {answer : Answer} {one two : Envelope α} (first : answer.Holds one)
    (second : answer.Holds two) : one = two := by
  obtain ⟨value, read, rfl⟩ := first.decoded
  obtain ⟨other, again, rfl⟩ := second.decoded
  rw [read] at again
  rw [Except.ok.inj again]

/-- The records of an answer are all its data, one by one in their order. -/
theorem Answer.Holds.forall₂_data {answer : Answer} {envelope : Envelope α}
    (holds : answer.Holds envelope) :
    List.Forall₂ ReadFrom answer.tree.enclosed envelope.data := by
  obtain ⟨value, read, rfl⟩ := holds.decoded
  have each := forall₂_enclosed (parseAs_eq_ok read)
  change List.Forall₂ _ _ ((itemsAt "data" value).map Record.ofJson)
  rw [List.forall₂_map_right_iff]
  exact each.imp fun tree item here => ⟨item, here, rfl⟩

namespace Client

/-- The records of the value that a list was answered with. -/
def listed (α : Type) [Record α] (pair : Answer × Json) : Except ClientError (List α) :=
  match (Envelope.ofJson pair.2 : Envelope α).accepted with
  | .ok records => .ok records
  | .error message => .error (.rejected message)

/-- What a list makes of an answer. -/
def listing (α : Type) [Record α] (request : Request) (pair : Url × Answer) :
    Except ClientError (List α) :=
  judged request pair >>= fun answer => arrivedBytes answer >>= fun bytes =>
    decodedBytes (Envelope.shape (Record.shape α)) bytes >>= listed α

theorem run_list (path : String) (paging : Option Paging) (client : Client) :
    (list α path paging).run client =
      (((exchange (listRequest path paging)).run client).1 >>= listing α (listRequest path paging),
        ((exchange (listRequest path paging)).run client).2) := by
  have shaped : (list α path paging).run client =
      (((executeShape (Envelope.shape (Record.shape α)) (listRequest path paging)).run client).1 >>=
          listed α,
        ((executeShape (Envelope.shape (Record.shape α)) (listRequest path paging)).run client).2) := by
    apply run_judging
    intro pair client
    dsimp only [listed]
    cases (Envelope.ofJson pair.2 : Envelope α).accepted <;> rfl
  rw [shaped, run_executeShape, run_executeBytes, run_send]
  simp only [bind_assoc]
  rfl

/-- What a list makes of an answer that holds no envelope. -/
inductive Unlisted (request : Request) (url : Url) (answer : Answer) : ClientError → Prop where
  | refused : answer.succeeded = false →
      Unlisted request url answer (.refused (refusalOf request url answer))
  | cut : answer.succeeded = true → answer.complete = false →
      Unlisted request url answer (.transport false none)
  | undecodable (message : String) : answer.succeeded = true → answer.complete = true →
      Unlisted request url answer (.undecodable message (Text.lossyText answer.body))

/-- An answer holds an envelope, or fails for the first want of one. -/
theorem listing_cases (α : Type) [Record α] (request : Request) (url : Url) (answer : Answer) :
    (∃ envelope : Envelope α, answer.Holds envelope ∧
      listing α request (url, answer) = envelope.accepted.mapError .rejected) ∨
    ((∀ envelope : Envelope α, ¬ answer.Holds envelope) ∧
      ∃ cause, listing α request (url, answer) = .error cause ∧ Unlisted request url answer cause) := by
  cases succeeded : answer.succeeded with
  | false =>
      right
      refine ⟨fun envelope holds => ?_, _, ?_, .refused succeeded⟩
      · rw [holds.succeeded] at succeeded
        cases succeeded
      · simp [listing, judged, succeeded, bind, Except.bind]
  | true =>
      cases complete : answer.complete with
      | false =>
          right
          refine ⟨fun envelope holds => ?_, _, ?_, .cut succeeded complete⟩
          · rw [holds.complete] at complete
            cases complete
          · simp [listing, judged, succeeded, arrivedBytes, complete, bind, Except.bind]
      | true =>
          cases decoded : decodeBody (Envelope.shape (Record.shape α)) (Text.lossyText answer.body) with
          | error cause =>
              right
              obtain ⟨message, rfl⟩ := undecodable_of_decodeBody decoded
              refine ⟨?_, _, ?_, .undecodable message succeeded complete⟩
              · rintro envelope ⟨-, -, value, read, -⟩
                rw [← decodeBody_ok_iff, decoded] at read
                cases read
              · simp [listing, judged, succeeded, arrivedBytes, complete, decodedBytes, decoded, bind,
                  Except.bind, Except.map]
          | ok value =>
              left
              refine ⟨Envelope.ofJson value,
                ⟨succeeded, complete, value, decodeBody_ok_iff.mp decoded, rfl⟩, ?_⟩
              simp only [listing, judged, succeeded, arrivedBytes, complete, decodedBytes, decoded,
                bind, Except.bind, Except.map, listed, if_true]
              cases (Envelope.ofJson value : Envelope α).accepted <;> rfl

variable {request : Request} {url : Url} {answer : Answer}

theorem listing_of_holds {envelope : Envelope α} (holds : answer.Holds envelope) :
    listing α request (url, answer) = envelope.accepted.mapError .rejected := by
  rcases listing_cases α request url answer with ⟨other, otherHolds, made⟩ | ⟨nothing, -⟩
  · rw [made, holds.unique otherHolds]
  · exact absurd holds (nothing envelope)

theorem listing_ok_iff {records : List α} : listing α request (url, answer) = .ok records ↔
    ∃ envelope : Envelope α, answer.Holds envelope ∧ envelope.Accepts ∧ records = envelope.data := by
  constructor
  · intro ok
    rcases listing_cases α request url answer with ⟨envelope, holds, made⟩ | ⟨-, cause, made, -⟩
    · refine ⟨envelope, holds, Envelope.accepted_ok_iff.mp ?_⟩
      rw [made] at ok
      cases accepted : envelope.accepted <;> simp_all [Except.mapError]
    · rw [made] at ok
      cases ok
  · rintro ⟨envelope, holds, accepts⟩
    rw [listing_of_holds holds, Envelope.accepted_ok_iff.mpr accepts]
    rfl

theorem listing_rejected_iff {message : String} :
    listing α request (url, answer) = .error (.rejected message) ↔
      ∃ envelope : Envelope α, answer.Holds envelope ∧ envelope.accepted = .error message := by
  constructor
  · intro failed
    rcases listing_cases α request url answer with ⟨envelope, holds, made⟩ |
      ⟨-, cause, made, unlisted⟩
    · refine ⟨envelope, holds, ?_⟩
      rw [made] at failed
      cases accepted : envelope.accepted <;> simp_all [Except.mapError]
    · rw [made] at failed
      cases failed
      cases unlisted
  · rintro ⟨envelope, holds, rejected⟩
    rw [listing_of_holds holds, rejected]
    rfl

theorem listing_refused_iff {refusal : Refusal} :
    listing α request (url, answer) = .error (.refused refusal) ↔
      answer.succeeded = false ∧ refusal = refusalOf request url answer := by
  constructor
  · intro failed
    rcases listing_cases α request url answer with ⟨envelope, holds, made⟩ |
      ⟨-, cause, made, unlisted⟩
    · rw [made] at failed
      cases accepted : envelope.accepted <;> simp_all [Except.mapError]
    · rw [made] at failed
      cases failed
      cases unlisted with
      | refused refused => exact ⟨refused, rfl⟩
  · rintro ⟨refused, rfl⟩
    simp [listing, judged, refused, bind, Except.bind]

/-! ## Results of lists -/

variable {path : String} {paging : Option Paging} {client : Client}

theorem list_ok_iff {records : List α} : ((list α path paging).run client).1 = .ok records ↔
    ∃ url answer, client.Hears (listRequest path paging) url answer ∧
      listing α (listRequest path paging) (url, answer) = .ok records := by
  rw [run_list, bind_eq_ok, Prod.exists]
  simp only [exchange_ok_iff]

/-- A failure other than for want of an answer is what the list made of one. -/
theorem list_error_iff {cause : ClientError} (heard : ¬ cause.IsUnheard) :
    ((list α path paging).run client).1 = .error cause ↔
      ∃ url answer, client.Hears (listRequest path paging) url answer ∧
        listing α (listRequest path paging) (url, answer) = .error cause := by
  rw [run_list]
  simp only [← exchange_ok_iff]
  cases exchanged : ((exchange (listRequest path paging)).run client).1 with
  | error other =>
      constructor
      · rintro ⟨⟩
        exact absurd (isUnheard_of_exchange exchanged) heard
      · rintro ⟨_, _, ⟨⟩, _⟩
  | ok pair =>
      constructor
      · exact fun failed => ⟨pair.1, pair.2, rfl, failed⟩
      · rintro ⟨_, _, ⟨⟩, failed⟩
        exact failed

end Client

end NetConsole
