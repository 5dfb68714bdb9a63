import NetConsole.Client.Http
import NetConsole.Json.Reason
import NetConsole.Url.Error

/-!
# Why an operation on a controller fails

The causes, their wording, and what callers ask of them.
-/

set_option autoImplicit false

namespace NetConsole

/-- An answer whose status is not one of success, with what its body says. -/
structure Refusal where
  method : Method
  url : Url
  status : Nat
  message : String
  requestId : String
  headers : List (String × String)
  deriving DecidableEq, Repr, Inhabited

def Refusal.text (r : Refusal) : String :=
  r.method.name ++ " " ++ r.url.text ++ ": " ++ toString r.status ++ " (request " ++
    Text.quoted r.requestId ++ ") " ++ r.message

/-- The cause for which an operation fails. -/
inductive ClientError where
  /-- an argument is refused before anything is sent -/
  | invalidArgument (argument reason : String)
  /-- a request needs a session token and none is held -/
  | notLoggedIn
  /-- a login succeeded without issuing both tokens -/
  | authentication (message : String)
  /-- no answer, or not all of it; the URL is known unless the request could not be built or the
  body broke off -/
  | transport (timedOut : Bool) (url : Option Url)
  | invalidUrl (cause : Url.Error)
  /-- the certificate to trust cannot be used -/
  | tls (message : String)
  /-- the status is not one of success -/
  | refused (refusal : Refusal)
  /-- the status is one of success, the verdict is not -/
  | rejected (message : String)
  /-- a lookup found nothing -/
  | notFound (resource identifier : String)
  /-- what is to be sent has no form as JSON; no record here is without one -/
  | encoding (reason : Json.Reason)
  /-- the body is not what was asked for; the whole body is kept -/
  | undecodable (message body : String)
  /-- a writer does not take the body; output that is a value takes all of it -/
  | writing (reason : String)
  deriving DecidableEq, Repr, Inhabited

namespace ClientError

/-- The wording of a cause; a failure of the transport has none of its own. -/
def message : ClientError → String
  | .invalidArgument argument reason => "Invalid argument " ++ argument ++ ": " ++ reason
  | .notLoggedIn => "Not logged in -- call login before issuing requests"
  | .authentication message => "Authentication failed: " ++ message
  | .transport _ _ => "HTTP transport error"
  | .invalidUrl cause => "Invalid URL: " ++ cause.message
  | .tls message => "TLS error: " ++ message
  | .refused refusal => refusal.text
  | .rejected message => "Controller rejected request: " ++ message
  | .notFound resource identifier => resource ++ " not found: " ++ identifier
  | .encoding reason => "Encoding error: " ++ reason.message
  | .undecodable message _ => "Deserialization error: " ++ message
  | .writing reason => "I/O error: " ++ reason

/-- Whether the controller refused the credentials or the session, or there is none. -/
def isAuthFailure : ClientError → Bool
  | .authentication _ | .notLoggedIn => true
  | .refused refusal => refusal.status == 401 || refusal.status == 403
  | _ => false

def isNotFound : ClientError → Bool
  | .notFound _ _ => true
  | .refused refusal => refusal.status == 404
  | _ => false

def status? : ClientError → Option Nat
  | .refused refusal => some refusal.status
  | _ => none

end ClientError

end NetConsole
