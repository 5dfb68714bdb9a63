import NetConsole.Client.Session
import NetConsole.Client.Tokens
import NetConsole.Json.Record
import NetConsole.Records.Envelope

/-!
# The client

A client is a session, the tokens held, and the wire. Every operation is a step from client to
client: it looks up where a request goes, lets only logged-in requests through, puts one request
on the wire, and folds the cookies of the answer into the tokens before anything else is made of
the answer.
-/

set_option autoImplicit false

namespace NetConsole

open Json

/-- A request before it is resolved. -/
structure Request where
  method : Method
  path : String
  query : List (String × String) := []
  body : Option (List UInt8) := none
  /-- may be sent without a session token -/
  anonymous : Bool := false
  deriving DecidableEq, Repr, Inhabited

namespace Request

def get (path : String) : Request := { method := .get, path }

def withRecord {α : Type} [Record α] (request : Request) (record : α) : Request :=
  { request with body := some (Text.bytes (Record.write record)) }

end Request

/-- Which page of a list is wanted, and how long pages are; zero leaves it to the controller. -/
structure Paging where
  page : Nat
  perPage : Nat
  deriving DecidableEq, Repr, Inhabited

def Paging.pairs (p : Paging) : List (String × String) :=
  let numbers := [("page", p.page), ("per_page", p.perPage)].filter (0 < ·.2)
  numbers.map fun (key, n) => (key, toString n)

def Paging.pairs? : Option Paging → List (String × String)
  | none => []
  | some paging => paging.pairs

/-- A page that is asked for, unless both numbers leave it to the controller. -/
def Paging.wanted? (p : Paging) : Option Paging :=
  if 0 < p.page ∨ 0 < p.perPage then some p else none

/-- A client: its session, the tokens it holds, its wire, and the requests that it tried to make so
far, whether or not they got as far as the wire. -/
structure Client where
  session : Session
  tokens : Tokens
  wire : Wire
  attempts : List Request := []

/-- An operation: from the client before it to its result and the client after it. -/
abbrev Operation (α : Type) := ExceptT ClientError (StateM Client) α

namespace Client

def fresh (session : Session) (wire : Wire) : Client := { session, tokens := .empty, wire }

/-- The client once it has set out to make a request. -/
def trying (client : Client) (request : Request) : Client :=
  { client with attempts := client.attempts ++ [request] }

def isLoggedIn (client : Client) : Bool := client.tokens.hasSession

/-! ## Sending -/

/-- The headers that a request bears, in ascending order of names. -/
def headersOf (session : Session) (tokens : Tokens) (request : Request) (url : Url) :
    List (String × String) :=
  [("accept", "application/json")] ++
    ((basicAuthorization url).map fun value => ("authorization", value)).toList ++
    (request.body.map fun _ => ("content-type", "application/json")).toList ++
    (tokens.header?.map fun value => ("cookie", value)).toList ++
    [("user-agent", session.userAgent)] ++
    (tokens.csrf.map fun value => ("x-csrf-token", value)).toList

def hasHost (url : Url) : Bool :=
  match url.authority with
  | some authority => authority.host != .domain ""
  | none => false

/-- A URL without its user information, which a header bears instead. -/
def stripUser (url : Url) : Url :=
  if (basicAuthorization url).isSome then
    { url with authority := url.authority.map fun a => { a with user := "", password := none } }
  else url

/-- A request as it goes out under a session and tokens, from the URL that its path resolves to.
Requests that no peer can get are failures of the transport. -/
def outgoing (session : Session) (tokens : Tokens) (request : Request) (url : Url) :
    Except ClientError Sent :=
  if !hasHost url then .error (.transport false (some url))
  else
    let headers := headersOf session tokens request url
    if !headers.all (fun header => isHeaderValue header.2) then .error (.transport false none)
    else
      let full := stripUser (url.appendPairs request.query)
      if !full.isHttp then .error (.transport false (some full))
      else
        .ok { method := request.method
              url := full
              headers := headers.map fun (name, value) => (name, headerArrives value)
              body := request.body.getD [] }

/-- What a request needs before it goes out: a URL for its path, and a session token unless it is
anonymous. -/
def prepare (session : Session) (tokens : Tokens) (request : Request) :
    Except ClientError (Url × Sent) := do
  let url ← session.resolve request.path
  if !request.anonymous && !tokens.hasSession then throw .notLoggedIn
  let sent ← outgoing session tokens request url
  return (url, sent)

/-- The answer to a request, whatever its status, with the URL that its path resolved to. The
cookies of the answer are folded into the tokens. -/
def exchange (request : Request) : Operation (Url × Answer) := do
  modify (trying · request)
  let client ← get
  let (url, sent) ← liftM (prepare client.session client.tokens request)
  let (outcome, wire) := client.wire.transmit sent
  match outcome with
  | .answer answer =>
      set { client with wire, tokens := client.tokens.absorb answer.cookies }
      return (url, answer)
  | .timedOut =>
      set { client with wire }
      throw (.transport true (some sent.url))
  | .unreachable | .dropped =>
      set { client with wire }
      throw (.transport false (some sent.url))

/-! ## Refusals -/

def refusalShape : Shape :=
  .record "ErrorBody"
    [.text? "message", .text? "request_id", .optional "meta" Verdict.shape] false

/-- The message and the request id that the body of a refusal holds. A message that is empty or
missing is replaced by the status. -/
def refusalDetails (status : Nat) (body : String) : String × String :=
  let said := match parseAs refusalShape body with
    | .error _ => (none, none)
    | .ok value =>
        ((textAt? "message" value).or
          ((recordAt? "meta" value).bind fun verdict => (Verdict.ofJson verdict).message),
          textAt? "request_id" value)
  let message := said.1.filter (· ≠ "")
  (message.getD ("status " ++ toString status), said.2.getD "")

/-- The text of a body; nothing if it broke off. -/
def refusalBody (answer : Answer) : String :=
  if answer.complete then Text.lossyText answer.body else ""

/-- The answer to a request if its status is one of success. -/
def send (request : Request) : Operation Answer := do
  let (url, answer) ← exchange request
  if answer.succeeded then return answer
  else
    let (message, requestId) := refusalDetails answer.status (refusalBody answer)
    throw (.refused
      { method := request.method, url, status := answer.status, message, requestId
        headers := answer.headers })

/-! ## Bodies -/

def previewLength : Nat := 200

/-- The value of a shape that the text of a body holds; a blank body holds `null`. -/
def decodeBody (shape : Shape) (body : String) : Except ClientError Json :=
  match parseAs shape (if Text.isBlankText body then "null" else body) with
  | .ok value => .ok value
  | .error reason =>
      let preview := String.ofList (body.toList.take previewLength)
      .error (.undecodable
        (reason.message ++ " (body preview: " ++ Text.quoted preview ++ ")") body)

/-- The bytes of the body, and the answer they came with. -/
def executeBytes (request : Request) : Operation (Answer × List UInt8) := do
  let answer ← send request
  if answer.complete then return (answer, answer.body)
  else throw (.transport false none)

/-- The value of a shape that the text of the body holds, and the answer it came in. -/
def executeShape (shape : Shape) (request : Request) : Operation (Answer × Json) := do
  let answer ← send request
  if answer.complete then
    let value ← liftM (decodeBody shape (Text.lossyText answer.body))
    return (answer, value)
  else throw (.transport false none)

/-- The record that the body holds. -/
def execute {α : Type} [Record α] (request : Request) : Operation α := do
  let (_, value) ← executeShape (Record.shape α) request
  return Record.ofJson value

/-- What a writer holds once it was handed pieces, one after the other. -/
def writePieces (held : List UInt8) : List (List UInt8) → List UInt8
  | [] => held
  | piece :: rest => writePieces (held ++ piece) rest

/-- What a writer holds that is handed the body piece by piece, as far as it arrives, and how the
request ends. A refused request gives the writer nothing. -/
def executeWriting (request : Request) :
    StateM Client (List UInt8 × Except ClientError Answer) := do
  match ← (send request).run with
  | .error cause => return ([], .error cause)
  | .ok answer =>
      let written := writePieces [] answer.pieces
      if answer.complete then return (written, .ok answer)
      else return (written, .error (.transport false none))

end Client

end NetConsole
