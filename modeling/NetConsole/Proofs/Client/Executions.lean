import NetConsole.Proofs.Client.Account

/-!
# One request in three ways

A request is made for a value, for the bytes of the body, or for a writer that gets the body piece
by piece. All three make the same exchange and judge its answer in the same way; only what they make
of a body is different.
-/

set_option autoImplicit false

namespace NetConsole

open Stepwise Operation

/-- What only judges a value leaves the client as it is. -/
theorem Operation.run_judging {α β : Type} {op : Operation α} {next : α → Operation β}
    {judge : α → Except ClientError β}
    (judges : ∀ value client, (next value).run client = (judge value, client)) (client : Client) :
    (op >>= next).run client = ((op.run client).1 >>= judge, (op.run client).2) := by
  rcases ran : op.run client with ⟨result, after⟩
  cases result with
  | error cause => rw [run_bind_error ran]; rfl
  | ok value => rw [run_bind_ok ran, judges]; rfl

namespace Client

/-! ## Judging an answer -/

/-- The refusal that an answer is. -/
def refusalOf (request : Request) (url : Url) (answer : Answer) : Refusal :=
  let details := refusalDetails answer.status (refusalBody answer)
  { method := request.method, url, status := answer.status, message := details.1
    requestId := details.2, headers := answer.headers }

/-- An answer whose status is one of success. -/
def judged (request : Request) (pair : Url × Answer) : Except ClientError Answer :=
  if pair.2.succeeded then .ok pair.2 else .error (.refused (refusalOf request pair.1 pair.2))

/-- The bytes of an answer whose body arrived. -/
def arrivedBytes (answer : Answer) : Except ClientError (Answer × List UInt8) :=
  if answer.complete then .ok (answer, answer.body) else .error (.transport false none)

/-- The value that the body of an answer holds, if it arrived. -/
def arrivedValue (shape : Json.Shape) (answer : Answer) : Except ClientError (Answer × Json) :=
  if answer.complete then
    (decodeBody shape (Text.lossyText answer.body)).map fun value => (answer, value)
  else .error (.transport false none)

/-- The value that the bytes of an answer hold. -/
def decodedBytes (shape : Json.Shape) (pair : Answer × List UInt8) :
    Except ClientError (Answer × Json) :=
  (decodeBody shape (Text.lossyText pair.2)).map fun value => (pair.1, value)

theorem judged_eq_ok {request : Request} {pair : Url × Answer} {answer : Answer} :
    judged request pair = .ok answer ↔ pair.2.succeeded = true ∧ pair.2 = answer := by
  rw [judged]
  split
  case isTrue succeeded => simp [succeeded]
  case isFalse failed => simp [failed]

theorem arrivedBytes_eq_ok {answer : Answer} {pair : Answer × List UInt8} :
    arrivedBytes answer = .ok pair ↔ answer.complete = true ∧ (answer, answer.body) = pair := by
  rw [arrivedBytes]
  split
  case isTrue whole => simp [whole]
  case isFalse cut => simp [cut]

/-- Whether a body is taken as text or as bytes that are then made text, the value is the same. -/
theorem arrivedValue_eq (shape : Json.Shape) (answer : Answer) :
    arrivedValue shape answer = arrivedBytes answer >>= decodedBytes shape := by
  unfold arrivedValue arrivedBytes
  split <;> simp only [bind, Except.bind, decodedBytes]

variable (request : Request) (client : Client)

theorem run_send : (send request).run client =
    (((exchange request).run client).1 >>= judged request, ((exchange request).run client).2) := by
  apply run_judging
  intro pair client
  by_cases succeeded : pair.2.succeeded = true
  · simp only [judged, succeeded, if_true]; rfl
  · simp only [judged, succeeded]; rfl

theorem run_executeBytes : (executeBytes request).run client =
    (((send request).run client).1 >>= arrivedBytes, ((send request).run client).2) := by
  apply run_judging
  intro answer client
  by_cases whole : answer.complete = true
  · simp only [arrivedBytes, whole, if_true]; rfl
  · simp only [arrivedBytes, whole]; rfl

theorem run_executeShape_send (shape : Json.Shape) : (executeShape shape request).run client =
    (((send request).run client).1 >>= arrivedValue shape, ((send request).run client).2) := by
  apply run_judging
  intro answer client
  by_cases whole : answer.complete = true
  · simp only [arrivedValue, whole, if_true]
    rw [run_bind]
    cases decodeBody shape (Text.lossyText answer.body) <;> rfl
  · simp only [arrivedValue, whole]; rfl

theorem run_executeShape (shape : Json.Shape) : (executeShape shape request).run client =
    (((executeBytes request).run client).1 >>= decodedBytes shape,
      ((executeBytes request).run client).2) := by
  rw [run_executeShape_send, run_executeBytes]
  rcases (send request).run client with ⟨result, after⟩
  cases result with
  | error cause => rfl
  | ok answer => exact Prod.ext (arrivedValue_eq shape answer) rfl

theorem run_execute {α : Type} [Record α] : (execute request : Operation α).run client =
    (((executeShape (Record.shape α) request).run client).1.map fun pair => Record.ofJson pair.2,
      ((executeShape (Record.shape α) request).run client).2) := by
  unfold execute
  rw [run_bind]
  rcases (executeShape (Record.shape α) request).run client with ⟨result, after⟩
  cases result <;> rfl

/-! ## Bodies written -/

/-- At most one request is put on the wire, and that is the one that was prepared. -/
theorem exchange_sent : ((exchange request).run client).2.wire.sent = client.wire.sent ∨
    ∃ url sent, prepare client.session client.tokens request = .ok (url, sent) ∧
      ((exchange request).run client).2.wire.sent = client.wire.sent ++ [sent] := by
  rw [wire_exchange]
  cases prepared : prepare client.session client.tokens request with
  | error cause => exact .inl rfl
  | ok pair =>
      obtain ⟨url, sent⟩ := pair
      dsimp only
      rcases client.wire.transmit_cases sent with unreachable | ⟨delivery, out, -⟩
      · rw [unreachable]
        exact .inl rfl
      · rw [out]
        exact .inr ⟨url, sent, rfl, rfl⟩

/-- A writer that was handed every piece holds the bytes of the body. -/
theorem executeWriting_ok {answer : Answer} {bytes : List UInt8}
    (ok : ((executeBytes request).run client).1 = .ok (answer, bytes)) :
    executeWriting request client =
      ((bytes, .ok answer), ((executeBytes request).run client).2) := by
  rw [run_executeWriting]
  rw [run_executeBytes] at ok ⊢
  rcases ran : (send request).run client with ⟨result, after⟩
  rw [ran] at ok
  cases result with
  | error cause => cases ok
  | ok sent =>
      by_cases whole : sent.complete = true
      · simp only [bind, Except.bind, arrivedBytes, whole, if_true] at ok
        cases ok
        simp only [whole, if_true]
      · simp [bind, Except.bind, arrivedBytes, whole] at ok

theorem executeWriting_fails (cause : ClientError) :
    ((executeBytes request).run client).1 = .error cause ↔
      (executeWriting request client).1.2 = .error cause := by
  have ends := congrArg Prod.fst (executeWriting_eq_executeBytes request client)
  rw [run_ending] at ends
  dsimp only at ends
  cases taken : ((executeBytes request).run client).1 <;>
    cases written : (executeWriting request client).1.2 <;>
      simp_all [Except.map]

theorem snd_executeWriting :
    (executeWriting request client).2 = ((executeBytes request).run client).2 := by
  have left := congrArg Prod.snd (executeWriting_eq_executeBytes request client)
  rw [run_ending] at left
  exact left

/-! ## Bodies decoded -/

/-- The text in which a value is looked for. -/
def bodyText (bytes : List UInt8) : String :=
  if Text.isBlankText (Text.lossyText bytes) then "null" else Text.lossyText bytes

theorem decodeBody_ok_iff {shape : Json.Shape} {bytes : List UInt8} {value : Json} :
    decodeBody shape (Text.lossyText bytes) = .ok value ↔
      Json.parseAs shape (bodyText bytes) = .ok value := by
  unfold decodeBody bodyText
  split
  case h_1 read => rw [read]; simp
  case h_2 read => rw [read]; simp

theorem undecodable_of_decodeBody {shape : Json.Shape} {body : String} {cause : ClientError}
    (failed : decodeBody shape body = .error cause) :
    ∃ message, cause = .undecodable message body := by
  unfold decodeBody at failed
  split at failed
  case h_1 => cases failed
  case h_2 =>
    cases failed
    exact ⟨_, rfl⟩

/-! ## Agreement -/

/-- What the three ways of making a request come to: for a value, for bytes, for a writer. -/
structure Agree (shape : Json.Shape) : Prop where
  /-- they leave the same client, which has put at most the one request on the wire that it sets
  out to make; -/
  shapeAfter : ((executeShape shape request).run client).2 = ((executeBytes request).run client).2
  writerAfter : (executeWriting request client).2 = ((executeBytes request).run client).2
  sent : ((executeBytes request).run client).2.wire.sent = client.wire.sent ∨
    ∃ url sent, prepare client.session client.tokens request = .ok (url, sent) ∧
      ((executeBytes request).run client).2.wire.sent = client.wire.sent ++ [sent]
  /-- what fails before there is a body to make something of fails for the same cause; -/
  shapeFails : ∀ cause, ((executeBytes request).run client).1 = .error cause →
    ((executeShape shape request).run client).1 = .error cause
  writerFails : ∀ cause, ((executeBytes request).run client).1 = .error cause ↔
    (executeWriting request client).1.2 = .error cause
  /-- otherwise the writer has the bytes of the same answer, wherever its body was cut, -/
  written : ∀ answer bytes, ((executeBytes request).run client).1 = .ok (answer, bytes) →
    executeWriting request client = ((bytes, .ok answer), ((executeBytes request).run client).2)
  /-- and there is a value in that answer exactly if the text of the bytes holds one. -/
  decoded : ∀ answer bytes, ((executeBytes request).run client).1 = .ok (answer, bytes) →
    ∀ met value, ((executeShape shape request).run client).1 = .ok (met, value) ↔
      met = answer ∧ Json.parseAs shape (bodyText bytes) = .ok value
  undecodable : ∀ answer bytes, ((executeBytes request).run client).1 = .ok (answer, bytes) →
    ∀ cause, ((executeShape shape request).run client).1 = .error cause →
      ∃ message, cause = .undecodable message (Text.lossyText bytes)

/-- The three ways agree, whatever pieces a body comes in: any division of it into pieces is one
that an answer may come with. -/
theorem executions_agree (request : Request) (client : Client) :
    (∀ shape, Agree request client shape) ∧
      (∀ (answer : Answer) (pieces : List (List UInt8)), pieces.flatten = answer.body →
        (∀ piece ∈ pieces, piece ≠ []) → ∃ cuts, { answer with cuts }.pieces = pieces) ∧
      ∀ (α : Type) [Record α], (execute request : Operation α).run client =
        (((executeShape (Record.shape α) request).run client).1.map fun pair =>
            Record.ofJson pair.2,
          ((executeBytes request).run client).2) := by
  refine ⟨fun shape => ?agree, ?divided, ?executes⟩
  case agree =>
    have shaped := run_executeShape request client shape
    constructor
    case shapeAfter => rw [shaped]
    case writerAfter => exact snd_executeWriting request client
    case sent =>
      rw [after_executeBytes]
      exact exchange_sent request client
    case shapeFails =>
      intro cause failed
      rw [shaped, failed]
      rfl
    case writerFails => exact executeWriting_fails request client
    case written => exact fun answer bytes ok => executeWriting_ok request client ok
    case decoded =>
      intro answer bytes ok met value
      rw [shaped, ok, ← decodeBody_ok_iff]
      simp only [bind, Except.bind, decodedBytes]
      cases decodeBody shape (Text.lossyText bytes) with
      | error cause => simp [Except.map]
      | ok found => simp [Except.map, eq_comm]
    case undecodable =>
      intro answer bytes ok cause failed
      rw [shaped, ok] at failed
      simp only [bind, Except.bind, decodedBytes] at failed
      cases decoded : decodeBody shape (Text.lossyText bytes) with
      | ok found => simp [decoded, Except.map] at failed
      | error other =>
          obtain rfl : other = cause := by simpa [decoded, Except.map] using failed
          exact undecodable_of_decodeBody decoded
  case divided =>
    intro answer pieces whole full
    obtain ⟨cuts, cut⟩ := exists_cutAt full
    exact ⟨cuts, whole ▸ cut⟩
  case executes =>
    intro α _
    rw [run_execute, run_executeShape]

/-- An answer whose body comes byte by byte. -/
def dripping (body : String) : Answer :=
  ⟨200, [], Text.bytes body, true, (Text.bytes body).map fun _ => 0⟩

theorem executions_agree_sample :
    let answer := dripping "\x7b \x7d"
    let request := loginRequest "admin" "secret"
    answer.pieces = [[0x7B], [0x20], [0x7D]] ∧
      ∃ client, visitor [.answer answer] = some client ∧
        (executeWriting request client).1 = ([0x7B, 0x20, 0x7D], .ok answer) ∧
        ((executeShape .any request).run client).1 = .ok (answer, .object []) := by
  intro answer request
  refine ⟨by decide +kernel, ?_⟩
  have asked : (visitor [.answer answer]).map (fun client =>
      ((executeBytes request).run client).1) = some (.ok (answer, [0x7B, 0x20, 0x7D])) := by
    decide +kernel
  cases visits : visitor [.answer answer] with
  | none =>
      rw [visits] at asked
      cases asked
  | some client =>
      rw [visits] at asked
      have taken := Option.some.inj asked
      have agree := (executions_agree request client).1 .any
      refine ⟨client, rfl, ?_, ?_⟩
      · rw [agree.written _ _ taken]
      · apply (agree.decoded _ _ taken answer (.object [])).mpr
        exact ⟨rfl, by decide +kernel⟩

end Client

end NetConsole
