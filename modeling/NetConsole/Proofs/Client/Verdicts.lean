import NetConsole.Console.Status
import NetConsole.Proofs.Client.Pages
import NetConsole.Proofs.Records.Verdicts

/-!
# Success in three places

Whether the controller accepted a request is decided in three places: by a list, which fails unless
it did, by the reply to a command, and by the line that shows a reply. A list and the line agree on
every answer whose verdict is not `null`, and take a verdict without a code for success. The reply
itself does not: it wants the code to be there.
-/

set_option autoImplicit false

namespace NetConsole

open Json Stepwise Operation

/-! ## The line of a reply -/

namespace CommandReply

/-- The line of a reply shows success, with the message of the verdict if it has one. -/
def ShowsOk (reply : CommandReply) : Prop :=
  Console.status reply false = match reply.verdict.message with
    | none => "ok"
    | some message => "ok" ++ " (" ++ message ++ ")"

instance (reply : CommandReply) : Decidable reply.ShowsOk := inferInstanceAs (Decidable (_ = _))

variable {reply : CommandReply}

theorem shownCode_eq_ok_iff {verdict : Verdict} : verdict.shownCode = "ok" ↔ verdict.Passes := by
  rw [Verdict.shownCode, Verdict.Passes]
  by_cases empty : verdict.code = ""
  · simp [empty]
  · simp [empty]

theorem showsOk_iff : reply.ShowsOk ↔ reply.verdict.Passes := by
  rw [← shownCode_eq_ok_iff]
  change reply.verdict.shown = _ ↔ _
  rw [Verdict.shown]
  cases reply.verdict.message with
  | none => exact Iff.rfl
  | some message =>
      constructor
      · intro same
        -- what follows the code is the same on both sides
        simp only [String.append_assoc] at same
        exact (String.append_left_inj _).mp same
      · intro same
        rw [same]

theorem isOk_iff : reply.isOk = true ↔ reply.ShowsOk ∧ reply.verdict.code ≠ "" := by
  rw [showsOk_iff, Verdict.Passes, isOk, Verdict.isOk, beq_iff_eq]
  constructor
  · intro ok
    rw [ok]
    decide
  · rintro ⟨passes, given⟩
    exact passes.resolve_left given

end CommandReply

/-! ## Answers to commands -/

/-- An answer of success arrived as a whole and holds a reply. -/
structure Answer.Replies (answer : Answer) (reply : CommandReply) : Prop where
  succeeded : answer.succeeded = true
  complete : answer.complete = true
  decoded : ∃ value, parseAs CommandReply.shape (Client.bodyText answer.body) = .ok value ∧
    reply = CommandReply.ofJson value

namespace Answer

variable {answer : Answer}

/-- An envelope that is let through is a reply that shows success, but for a verdict that is
`null`. -/
theorem accepts_iff (given : ¬ answer.tree.NullVerdict) {records : List Json} :
    (∃ envelope : Envelope Json, answer.Holds envelope ∧ envelope.Accepts ∧
      records = envelope.data) ↔
    ∃ reply, answer.Replies reply ∧ reply.ShowsOk ∧ records = reply.data := by
  constructor
  · rintro ⟨_, ⟨succeeded, complete, value, decoded, rfl⟩, accepts, rfl⟩
    obtain ⟨read, ended⟩ := parseAs_eq_ok_iff.mp decoded
    obtain ⟨reply, again, same⟩ := reply_of_envelope read given
    refine ⟨_, ⟨succeeded, complete, reply, parseAs_eq_ok_iff.mpr ⟨again, ended⟩, rfl⟩,
      CommandReply.showsOk_iff.mpr ?_, same.data_eq.symm⟩
    -- a reply without a verdict has one without a code, which is shown as success
    rw [same.verdict_eq]
    cases found : (Envelope.ofJson value : Envelope Json).verdict with
    | none => exact .inl rfl
    | some verdict => exact accepts verdict found
  · rintro ⟨_, ⟨succeeded, complete, value, decoded, rfl⟩, shows, rfl⟩
    obtain ⟨read, ended⟩ := parseAs_eq_ok_iff.mp decoded
    obtain ⟨-, envelope, again, same⟩ := envelope_of_reply read
    refine ⟨_, ⟨succeeded, complete, envelope, parseAs_eq_ok_iff.mpr ⟨again, ended⟩, rfl⟩,
      fun verdict found => ?_, same.data_eq⟩
    have passes := CommandReply.showsOk_iff.mp shows
    rwa [same.verdict_eq, found] at passes

theorem not_replies_of_nullVerdict (null : answer.tree.NullVerdict) (reply : CommandReply) :
    ¬ answer.Replies reply := by
  rintro ⟨-, -, value, decoded, -⟩
  exact (envelope_of_reply (parseAs_eq_ok_iff.mp decoded).1).1 null

theorem accepts_of_nullVerdict (null : answer.tree.NullVerdict) {envelope : Envelope Json}
    (holds : answer.Holds envelope) : envelope.Accepts := by
  obtain ⟨-, -, value, decoded, rfl⟩ := holds
  obtain ⟨-, data, verdict, -, stands, rfl⟩ :=
    readEnvelope_iff.mp (parseAs_eq_ok_iff.mp decoded).1
  change verdictField?.Stands _ answer.tree.verdictParts verdict at stands
  rw [null] at stands
  cases stands with
  | stated read =>
      cases read
      rintro verdict ⟨⟩

end Answer

namespace Client

variable {request : Request} {client : Client}

/-- A request for a record is answered with one exactly if that is read from the whole body of an
answer of success. -/
theorem execute_ok_iff {α : Type} [Record α] {record : α} :
    ((execute request : Operation α).run client).1 = .ok record ↔
      ∃ url answer, client.Hears request url answer ∧ answer.succeeded = true ∧
        answer.complete = true ∧ ∃ value, parseAs (Record.shape α) (bodyText answer.body) =
          .ok value ∧ record = Record.ofJson value := by
  rw [run_execute, run_executeShape, run_executeBytes, run_send]
  simp only [← exchange_ok_iff, ← decodeBody_ok_iff]
  constructor
  · intro ok
    obtain ⟨⟨own, value⟩, shaped, rfl⟩ := map_eq_ok ok
    obtain ⟨bytes, arrived, decoded⟩ := bind_eq_ok.mp shaped
    obtain ⟨heard, judgement, arrived⟩ := bind_eq_ok.mp arrived
    obtain ⟨⟨url, answer⟩, exchanged, passed⟩ := bind_eq_ok.mp judgement
    obtain ⟨succeeded, rfl⟩ := judged_eq_ok.mp passed
    obtain ⟨complete, rfl⟩ := arrivedBytes_eq_ok.mp arrived
    obtain ⟨_, read, ⟨⟩⟩ := map_eq_ok decoded
    exact ⟨url, answer, exchanged, succeeded, complete, value, read, rfl⟩
  · rintro ⟨url, answer, exchanged, succeeded, complete, value, decoded, rfl⟩
    simp only [exchanged, bind, Except.bind, judged, arrivedBytes, decodedBytes, succeeded,
      complete, decoded, if_true, Except.map]

variable {α : Type} [Record α] {method : Method} {path place : String} {paging : Option Paging}
  {record : α} {lister commander : Client} {url site : Url} {answer : Answer}

theorem command_ok_iff (hears : commander.Hears (commandRequest method place record) site answer)
    {reply : CommandReply} :
    ((command method place record).run commander).1 = .ok reply ↔ answer.Replies reply := by
  refine (@execute_ok_iff _ _ CommandReply _ _).trans ?_
  constructor
  · rintro ⟨_, other, again, succeeded, complete, decoded⟩
    obtain rfl := hears.unique again
    exact ⟨succeeded, complete, decoded⟩
  · rintro ⟨succeeded, complete, decoded⟩
    exact ⟨site, answer, hears, succeeded, complete, decoded⟩

theorem list_heard_iff (hears : lister.Hears (listRequest path paging) url answer)
    {records : List Json} : ((list Json path paging).run lister).1 = .ok records ↔
      ∃ envelope : Envelope Json, answer.Holds envelope ∧ envelope.Accepts ∧
        records = envelope.data := by
  rw [list_ok_iff]
  simp only [listing_ok_iff]
  constructor
  · rintro ⟨_, other, again, held⟩
    obtain rfl := hears.unique again
    exact held
  · intro held
    exact ⟨url, answer, hears, held⟩

/-- A list and a command that hear the same answer. Unless the verdict is `null`, the list succeeds
exactly if the command has a reply whose line shows success, and the records of the list are the
data of the reply; if the verdict is `null` the list goes by the envelope alone, and the command has
no reply. A reply is one of success if its line shows that and the verdict has a code. -/
theorem successes_agree (lists : lister.Hears (listRequest path paging) url answer)
    (commands : commander.Hears (commandRequest method place record) site answer) :
    (¬ answer.tree.NullVerdict → ∀ records,
      ((list Json path paging).run lister).1 = .ok records ↔
        ∃ reply, ((command method place record).run commander).1 = .ok reply ∧ reply.ShowsOk ∧
          records = reply.data) ∧
    (answer.tree.NullVerdict →
      (∀ records, ((list Json path paging).run lister).1 = .ok records ↔
        ∃ envelope : Envelope Json, answer.Holds envelope ∧ records = envelope.data) ∧
      ∀ reply, ((command method place record).run commander).1 ≠ .ok reply) ∧
    ∀ reply : CommandReply, reply.isOk = true ↔ reply.ShowsOk ∧ reply.verdict.code ≠ "" := by
  refine ⟨fun given records => ?stated,
    fun null => ⟨fun records => ?unstated, fun reply ok => ?none⟩,
    fun reply => CommandReply.isOk_iff⟩
  case stated =>
    rw [list_heard_iff lists, Answer.accepts_iff given]
    simp only [command_ok_iff commands]
  case unstated =>
    rw [list_heard_iff lists]
    constructor
    · rintro ⟨envelope, holds, -, same⟩
      exact ⟨envelope, holds, same⟩
    · rintro ⟨envelope, holds, same⟩
      exact ⟨envelope, holds, Answer.accepts_of_nullVerdict null holds, same⟩
  case none =>
    exact Answer.not_replies_of_nullVerdict null reply ((command_ok_iff commands).mp ok)

/-- An answer of success with a body. -/
def saying (body : String) : Answer := ⟨200, [], Text.bytes body, true, []⟩

def restart : DeviceOrder := { action := .restart, mac := "aa:bb" }

/-- What a list of free values, and an order to restart, make of an answer. -/
def listedFrom (answer : Answer) : Except ClientError (List Json) :=
  ((list Json alarmsPath none).run (holder [.answer answer])).1

def repliedFrom (answer : Answer) : Except ClientError CommandReply :=
  ((command .post deviceManagerPath restart).run (holder [.answer answer])).1

theorem successes_agree_sample :
    let answer := saying "\x7b\"data\":[1],\"meta\":\x7b\"rc\":\"ok\",\"msg\":\"done\"\x7d\x7d"
    ∃ reply, repliedFrom answer = .ok reply ∧ reply.isOk = true ∧
      reply.data = [.number (.integer 1)] := by
  intro answer
  obtain ⟨url, lists⟩ := @exists_hears (listRequest alarmsPath none) (holder [.answer answer])
    answer (by decide +kernel)
  obtain ⟨site, commands⟩ := @exists_hears (commandRequest .post deviceManagerPath restart)
    (holder [.answer answer]) answer (by decide +kernel)
  obtain ⟨agree, -, isOk⟩ := successes_agree lists commands
  have given : ¬ answer.tree.NullVerdict := by
    intro null
    have stated : answer.tree.verdictParts.map (·.parts.length) = [2] := by decide +kernel
    rw [null] at stated
    cases stated
  have listed : listedFrom answer = .ok [.number (.integer 1)] := by decide +kernel
  obtain ⟨reply, replied, shows, data⟩ := (agree given _).mp listed
  have code : (repliedFrom answer).map (·.verdict.code) = .ok "ok" := by decide +kernel
  refine ⟨reply, replied, (isOk reply).mpr ⟨shows, ?_⟩, data.symm⟩
  rw [repliedFrom, replied] at code
  have same : reply.verdict.code = "ok" := Except.ok.inj code
  rw [same]
  decide

/-- An answer without a code is accepted by a list and shown as success, though the reply is not one
of success; an answer whose verdict is `null` is accepted by a list only. -/
theorem successes_differ :
    (listedFrom (saying "\x7b\x7d") = .ok [] ∧
      (repliedFrom (saying "\x7b\x7d")).map (fun reply => (Console.status reply false, reply.isOk)) =
        .ok ("ok", false)) ∧
    listedFrom (saying "\x7b\"meta\":null\x7d") = .ok [] ∧
      (repliedFrom (saying "\x7b\"meta\":null\x7d")).toOption = none := by decide +kernel

end Client

end NetConsole
