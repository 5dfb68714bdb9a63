import NetConsole.Json.Record

/-!
# Envelopes

What the controller wraps its answers in: the records under `data`, and its verdict on the
request under `meta`. `Envelope.accepted` and `CommandReply.isOk` are the two places that decide
whether a request was accepted.
-/

set_option autoImplicit false

namespace NetConsole

open Json

/-- The verdict of the controller on a request. -/
structure Verdict where
  code : String
  message : Option String
  deriving DecidableEq, Repr, Inhabited

namespace Verdict

def fields : List Field := [.textOrEmpty "rc", .text? "msg"]

def shape : Shape := .record "Meta" fields false

def ofJson (value : Json) : Verdict :=
  { code := textAt "rc" value, message := textAt? "msg" value }

/-- The members of a verdict; a message only if there is one. -/
def members (v : Verdict) : List (String × Json) :=
  ("rc", .string v.code) :: (match v.message with
    | none => []
    | some message => [("msg", .string message)])

instance : Record Verdict where
  shape := shape
  ofJson := ofJson
  toJson v := .object v.members

def absent : Verdict := ⟨"", none⟩

/-- Whether the controller said that the request succeeded. -/
def isOk (v : Verdict) : Bool := v.code == "ok"

end Verdict

/-- An answer to a request for records. -/
structure Envelope (α : Type) where
  data : List α
  verdict : Option Verdict
  deriving DecidableEq, Repr, Inhabited

namespace Envelope

def shape (item : Shape) : Shape :=
  .record "DataEnvelope" [.list "data" item, .optional "meta" Verdict.shape] false

def ofJson {α : Type} [Record α] (value : Json) : Envelope α :=
  { data := (itemsAt "data" value).map Record.ofJson
    verdict := (recordAt? "meta" value).map Verdict.ofJson }

/-- The message of a refusal: the one that the controller gave, else its code. -/
def refusal (v : Verdict) : String := v.message.getD ("rc=" ++ v.code)

/-- The records of an envelope, unless its verdict has a code other than `ok`. -/
def accepted {α : Type} (envelope : Envelope α) : Except String (List α) :=
  match envelope.verdict with
  | none => .ok envelope.data
  | some v => if v.code ≠ "" ∧ !v.isOk then .error (refusal v) else .ok envelope.data

end Envelope

/-- An answer to a request that changes something. -/
structure CommandReply where
  data : List Json
  verdict : Verdict
  deriving DecidableEq, Repr, Inhabited

namespace CommandReply

/-- The fields in their order. An absent verdict is one with an empty code. -/
def fields : List Field :=
  [.list "data" .any, .mk "meta" Verdict.shape (.filled (Record.toJson Verdict.absent))]

def shape : Shape := .record "CommandResponse" fields false

def ofJson (value : Json) : CommandReply :=
  { data := itemsAt "data" value
    verdict := ((recordAt? "meta" value).map Verdict.ofJson).getD Verdict.absent }

def members (r : CommandReply) : List (String × Json) :=
  [("data", .array r.data), ("meta", Record.toJson r.verdict)]

instance : Record CommandReply where
  shape := shape
  ofJson := ofJson
  toJson r := .object r.members

/-- Whether the controller said that the request succeeded. -/
def isOk (r : CommandReply) : Bool := r.verdict.isOk

end CommandReply

/-- What came of a login. -/
structure LoginStatus where
  username : String
  status : String
  message : Option String
  deriving DecidableEq, Repr, Inhabited

namespace LoginStatus

/-- The status as a value; the message only if there is one. -/
def toJson (s : LoginStatus) : Json :=
  .object (("username", .string s.username) :: ("status", .string s.status) ::
    (match s.message with
      | none => []
      | some message => [("status_message", .string message)]))

end LoginStatus

end NetConsole
