import NetConsole.Text.Base64
import NetConsole.Text.Blank
import NetConsole.Url.Basic

/-!
# Requests and answers

What is sent to a controller, what may come back, and the wire in between. A wire is a value: the
replies that are still to come and the requests that have gone out so far, in order.

A reply is what the HTTP library makes of a request in the end. Redirects were followed and the
body was decoded by then, so the answer to a request may have come from elsewhere.
-/

set_option autoImplicit false

namespace NetConsole

inductive Method where
  | get
  | post
  | put
  | delete
  | named (name : String)
  deriving DecidableEq, Repr, Inhabited

def Method.name : Method → String
  | .get => "GET"
  | .post => "POST"
  | .put => "PUT"
  | .delete => "DELETE"
  | .named name => name

def Method.ofName (name : String) : Method :=
  if name = "GET" then .get
  else if name = "POST" then .post
  else if name = "PUT" then .put
  else if name = "DELETE" then .delete
  else .named name

/-- A request as a peer gets it. Header names are in lower case and ascending. -/
structure Sent where
  method : Method
  url : Url
  headers : List (String × String)
  body : List UInt8
  deriving DecidableEq, Repr, Inhabited

/-- An answer as it is handed over: its status, its headers in order with names in lower case, and
as much of its body as arrived, with whether that is all of it. -/
structure Answer where
  status : Nat
  headers : List (String × String)
  body : List UInt8
  complete : Bool
  /-- where the body is cut if it is taken piece by piece -/
  cuts : List Nat := []
  deriving DecidableEq, Repr, Inhabited

def Answer.succeeded (a : Answer) : Bool := 200 ≤ a.status && a.status ≤ 299

/-- Bytes in pieces, none of which is empty. A cut is the number of bytes of a piece after its
first; what is left without a cut is one piece. -/
def cutAt : List Nat → List UInt8 → List (List UInt8)
  | _, [] => []
  | [], bytes => [bytes]
  | cut :: cuts, byte :: rest => (byte :: rest.take cut) :: cutAt cuts (rest.drop cut)

/-- The pieces in which the body of an answer comes. -/
def Answer.pieces (a : Answer) : List (List UInt8) := cutAt a.cuts a.body

/-- What comes of a request that went out. -/
inductive Reply where
  | answer (answer : Answer)
  /-- the connection is closed without an answer -/
  | dropped
  /-- nothing comes until time is up -/
  | silent
  deriving DecidableEq, Repr, Inhabited

/-- The wire to the peers: which URLs a connection can be made to, the replies to come, and the
requests that went out. -/
structure Wire where
  reaches : Url → Bool
  replies : List Reply
  sent : List Sent

inductive Delivery where
  | answer (answer : Answer)
  | unreachable
  | dropped
  | timedOut
  deriving DecidableEq, Repr, Inhabited

namespace Wire

/-- An answer as it arrives: answers that never have a body come without one. -/
def arriving (method : Method) (a : Answer) : Answer :=
  if method = .named "HEAD" ∨ a.status = 204 ∨ a.status = 304 then
    { a with body := [], complete := true }
  else a

/-- Puts a request on the wire. Where no connection can be made nothing goes out and no reply is
used up; without a reply left the connection is closed. -/
def transmit (wire : Wire) (request : Sent) : Delivery × Wire :=
  if !wire.reaches request.url then (.unreachable, wire)
  else
    let after := { wire with replies := wire.replies.drop 1, sent := wire.sent ++ [request] }
    match wire.replies with
    | [] => (.dropped, after)
    | .dropped :: _ => (.dropped, after)
    | .silent :: _ => (.timedOut, after)
    | .answer a :: _ => (.answer (arriving request.method a), after)

end Wire

/-! ## Headers -/

/-- Whether a text may be the value of a header: no controls other than the tab. -/
def isHeaderValue (s : String) : Bool :=
  s.toList.all fun c => c == '\t' || (0x20 ≤ c.toNat && c.toNat ≠ 0x7F)

/-- A header value as it arrives, without blanks and tabs around it. -/
def headerArrives (s : String) : String :=
  let isEdge := fun (c : Char) => c == ' ' || c == '\t'
  String.ofList ((s.toList.dropWhile isEdge).reverse.dropWhile isEdge).reverse

/-- The user and password of a URL as a header value; nothing if there is neither, or if the user
is no text once decoded. -/
def basicAuthorization (url : Url) : Option String := do
  let authority ← url.authority
  let user ← Text.exactText? (Url.decode authority.user)
  let password := authority.password.bind fun p => Text.exactText? (Url.decode p)
  if user = "" ∧ password.isNone then none
  else
    some ("Basic " ++ String.ofList (Text.base64 (Text.bytes (user ++ ":" ++ password.getD ""))))

/-- The cookie that a header sets: the name and value before the first semicolon, trimmed. A part
without an equals sign or a name sets nothing. -/
def cookieOf (value : String) : Option (String × String) :=
  let pair := value.toList.takeWhile (· ≠ ';')
  let name := Text.trimChars (pair.takeWhile (· ≠ '='))
  match pair.dropWhile (· ≠ '=') with
  | [] => none
  | _ :: rest =>
      if name = [] then none
      else some (String.ofList name, String.ofList (Text.trimChars rest))

def Answer.cookies (a : Answer) : List (String × String) :=
  (a.headers.filter (·.1 == "set-cookie")).filterMap (cookieOf ·.2)

end NetConsole
