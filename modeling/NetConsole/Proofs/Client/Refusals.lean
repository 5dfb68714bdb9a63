import NetConsole.Proofs.Client.Pages
import NetConsole.Proofs.Records.Refusals

/-!
# What is told of a refusal

A request that is answered with a status other than success fails with what the body of the answer
says. A body that is an object is told as far as it is a refusal: if one of its parts is not what is
expected of it, nothing of the body is told, not even the parts that are. An empty message is told
as no message, whatever the verdict says.
-/

set_option autoImplicit false

namespace NetConsole

open Json Stepwise

/-- What there is to tell of a refusal: the message of its body or else that of the verdict in it,
of those that are texts and not empty, or else the status; and the id, if that is a text. -/
def Json.promised (status : Nat) (body : Json) : String × String :=
  ((((textAt? "message" body).filter (· ≠ "")).or
      (((body.get? "meta").bind (textAt? "msg")).filter (· ≠ ""))).getD
    ("status " ++ toString status), (textAt? "request_id" body).getD "")

/-- The body of an answer says what a refusal says. -/
def Answer.IsRefusal (answer : Answer) : Prop :=
  (Document.ofChars (Client.refusalBody answer).toList).root.IsRefusal

instance (answer : Answer) : Decidable answer.IsRefusal :=
  inferInstanceAs (Decidable (Tree.IsRefusal _))

def Refusal.details (refusal : Refusal) : String × String := (refusal.message, refusal.requestId)

namespace Client

theorem told_eq_promised {status : Nat} {body : Json}
    (filled : textAt? "message" body ≠ some "")
    (single : ∀ items, body.get? "meta" ≠ some (.array items)) :
    told status body = promised status body := by
  have verdict : (body.get? "meta").bind messageOf = (body.get? "meta").bind (textAt? "msg") := by
    cases found : body.get? "meta" with
    | none => rfl
    | some verdict =>
        cases verdict with
        | array items => exact absurd found (single items)
        | null | bool | number | string | object => rfl
  rw [told, promised, verdict]
  cases message : textAt? "message" body with
  | none => rfl
  | some text =>
      rw [message] at filled
      have given : text ≠ "" := fun empty => filled (congrArg _ empty)
      have kept : (some text).filter (· ≠ "") = some text := Option.filter_eq_some_iff.mpr
        ⟨rfl, decide_eq_true given⟩
      rw [Option.some_or, kept]
      rfl

theorem run_send_failed {request : Request} {client : Client} {url : Url} {answer : Answer}
    (hears : client.Hears request url answer) (failed : answer.succeeded = false) :
    ((send request).run client).1 = .error (.refused (refusalOf request url answer)) := by
  rw [run_send, exchange_ok_iff.mpr hears]
  simp only [bind, Except.bind, judged, failed]
  rfl

/-- A request that is answered with an object under a status other than success fails with what the
object tells, if it is a refusal, and with the status alone if it is not. A refusal tells all that
there is to tell unless its message is empty or its verdict an array. -/
theorem refusals_are_told {request : Request} {client : Client} {url : Url} {answer : Answer}
    (hears : client.Hears request url answer) (failed : answer.succeeded = false)
    {members : List (String × Json)}
    (object : parse (refusalBody answer) = .ok (.object members)) :
    ∃ refusal, ((send request).run client).1 = .error (.refused refusal) ∧
      refusal.status = answer.status ∧
      (answer.IsRefusal → refusal.details = told answer.status (.object members)) ∧
      (¬ answer.IsRefusal → refusal.details = untold answer.status) ∧
      (answer.IsRefusal → textAt? "message" (.object members) ≠ some "" →
        (∀ items, (Json.object members).get? "meta" ≠ some (.array items)) →
        refusal.details = promised answer.status (.object members)) := by
  obtain ⟨isTold, isUntold⟩ := @refusalDetails_of_parse answer.status _ _ object
  refine ⟨_, run_send_failed hears failed, rfl, isTold, isUntold, fun refusal filled single => ?_⟩
  exact (isTold refusal).trans (told_eq_promised filled single)

/-- What a list of alarms fails with when it is answered with a status and a body. -/
def refusedBy (status : Nat) (body : String) : Option (String × String) :=
  match ((send (.get alarmsPath)).run
      (holder [.answer ⟨status, [], Text.bytes body, true, []⟩])).1 with
  | .error (.refused refusal) => some refusal.details
  | _ => none

/-- A refusal with a message, an id and something else. -/
def badCredentials : Answer :=
  ⟨401, [], Text.bytes ("\x7b\"message\":\"invalid credentials\",\"request_id\":\"abc\"," ++
    "\"other\":[1]\x7d"), true, []⟩

theorem refusals_are_told_sample :
    ∃ refusal, ((send (.get alarmsPath)).run (holder [.answer badCredentials])).1 =
        .error (.refused refusal) ∧
      refusal.details = ("invalid credentials", "abc") := by
  obtain ⟨url, hears⟩ := @exists_hears (.get alarmsPath) (holder [.answer badCredentials])
    badCredentials (by decide +kernel)
  have object : parse (refusalBody badCredentials) =
      .ok (.object [("message", .string "invalid credentials"),
        ("other", .array [.number (.integer 1)]), ("request_id", .string "abc")]) := by
    decide +kernel
  obtain ⟨refusal, failed, -, -, -, full⟩ := refusals_are_told hears (by decide) object
  exact ⟨refusal, failed, full (by decide +kernel) (by decide) (by simp [get?, Json.lookup])⟩

/-- A verdict without a code, a numbered id and an empty message each hide what else the body of a
refusal says. -/
theorem refusals_hide :
    refusedBy 401 "\x7b\"message\":\"no\",\"request_id\":\"abc\",\"meta\":\x7b\"rc\":null\x7d\x7d" =
      some ("status 401", "") ∧
    refusedBy 401 "\x7b\"message\":\"no\",\"request_id\":5\x7d" = some ("status 401", "") ∧
    refusedBy 401 "\x7b\"message\":\"\",\"meta\":\x7b\"msg\":\"no\"\x7d\x7d" =
      some ("status 401", "") ∧
    (parse "\x7b\"message\":\"no\",\"request_id\":\"abc\",\"meta\":\x7b\"rc\":null\x7d\x7d").map
      (promised 401) = .ok ("no", "abc") ∧
    (parse "\x7b\"message\":\"no\",\"request_id\":5\x7d").map (promised 401) = .ok ("no", "") ∧
    (parse "\x7b\"message\":\"\",\"meta\":\x7b\"msg\":\"no\"\x7d\x7d").map (promised 401) =
      .ok ("no", "") := by decide +kernel

end Client

end NetConsole
