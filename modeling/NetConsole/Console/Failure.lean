import NetConsole.Client.Error
import NetConsole.Config.Error
import NetConsole.Store.Error

/-!
# How a run fails

The causes for which a run of the program fails, as its user is told of them: a message, in most
cases advice, and the status with which the program exits. A run that breaks off is not told of in
this way; it ends where it is, and its status is one of its own.
-/

set_option autoImplicit false

namespace NetConsole

inductive Failure where
  | connectionFailed (url : String)
  | tls (reason : String)
  | timedOut
  | authentication (message : String)
  | noCredentials (profile : String)
  | notFound (resource identifier listCommand : String)
  | refused (status : Nat) (message detail : String)
  | rejected (message : String)
  | undecodable (message : String)
  | validation (field reason : String)
  | profileNotFound (name : String) (available : List String)
  | noController (configPath : String)
  | config (cause : Config.Error)
  | store (cause : Store.Error)
  | unconfirmed (action : String)
  /-- what the user enters cannot be read, or output cannot be written -/
  | io (reason : String)
  | json (reason : Json.Reason)
  /-- counting went past the last word, and the program broke off -/
  | overflow
  deriving DecidableEq, Repr, Inhabited

namespace Failure

/-- The status with which the program exits: 2 for misuse, 3 for refused or missing credentials,
4 for what is not there, 7 for a connection that failed, 8 for one that took too long, 101 for a
program that broke off, and 1 for all else. -/
def exitStatus : Failure → Nat
  | .connectionFailed _ | .tls _ => 7
  | .timedOut => 8
  | .authentication _ | .noCredentials _ => 3
  | .notFound _ _ _ => 4
  | .refused status _ _ => if status = 404 then 4 else 1
  | .validation _ _ | .unconfirmed _ => 2
  | .overflow => 101
  | _ => 1

/-- Names as a list; a word for none. -/
def listed : List String → String
  | [] => "(none)"
  | names => ", ".intercalate names

/-- The message of a failure; causes that bear their own have none. -/
def message? : Failure → Option String
  | .connectionFailed url => some ("Could not connect to controller at " ++ url)
  | .tls reason => some ("TLS setup failed: " ++ reason)
  | .timedOut => some "Request timed out"
  | .authentication message => some ("Authentication failed: " ++ message)
  | .noCredentials profile =>
      some ("No credentials configured for profile '" ++ profile ++ "'")
  | .notFound resource identifier _ => some (resource ++ " '" ++ identifier ++ "' not found")
  | .refused status message _ => some ("API error (" ++ toString status ++ "): " ++ message)
  | .rejected message => some ("Controller rejected the request: " ++ message)
  | .undecodable message => some ("Could not decode controller response: " ++ message)
  | .validation field reason => some ("Invalid value for " ++ field ++ ": " ++ reason)
  | .profileNotFound name _ => some ("Profile '" ++ name ++ "' not found in configuration")
  | .noController _ => some "No controller configured"
  | .config _ | .store _ => none
  | .unconfirmed action =>
      some ("Destructive operation '" ++ action ++ "' requires confirmation")
  | .io reason => some reason
  | .json reason => some ("Invalid JSON: " ++ reason.message)
  | .overflow => some Store.Error.overflow.message

/-- The code under which a failure is reported. -/
def code? : Failure → Option String
  | .connectionFailed _ => some "unified::connection_failed"
  | .tls _ => some "unified::tls_error"
  | .timedOut => some "unified::timeout"
  | .authentication _ => some "unified::auth_failed"
  | .noCredentials _ => some "unified::no_credentials"
  | .notFound _ _ _ => some "unified::not_found"
  | .refused _ _ _ => some "unified::api_error"
  | .rejected _ => some "unified::rejected"
  | .undecodable _ => some "unified::decode"
  | .validation _ _ => some "unified::validation"
  | .profileNotFound _ _ => some "unified::profile_not_found"
  | .noController _ => some "unified::no_config"
  | .config _ => some "unified::config"
  | .store _ => some "unified::store"
  | .unconfirmed _ => some "unified::confirmation_required"
  | .json _ => some "unified::json"
  | .io _ | .overflow => none

/-- What the user is advised to do. -/
def advice? : Failure → Option String
  | .connectionFailed _ =>
      some ("Check that the controller is running and reachable.\n" ++
        "Self-signed certificate? Retry with --insecure (-k) or set ca_cert in your profile.")
  | .tls _ => some "Check the ca_cert path in your profile, or use --insecure (-k)."
  | .timedOut => some "Increase timeout with --timeout or check controller responsiveness."
  | .authentication _ =>
      some ("Verify the username and password for this controller.\n" ++
        "Store a password with: unified config set-password")
  | .noCredentials _ =>
      some ("Configure credentials with: unified config init\n" ++
        "Or pass --username and set UNIFIED_PASSWORD.")
  | .notFound _ _ listCommand =>
      some ("Run: unified " ++ listCommand ++ " to see what is available")
  | .refused _ _ detail => some detail
  | .undecodable _ =>
      some ("Run with -vv to log the request, or inspect the raw body with: " ++
        "unified api get <path>")
  | .profileNotFound _ available =>
      some ("Available profiles: " ++ listed available ++
        "\nCreate one with: unified config init")
  | .noController configPath =>
      some ("Create a profile with: unified config init\n" ++
        "Or pass --controller. Expected config at: " ++ configPath)
  | .unconfirmed _ => some "Use --yes (-y) to skip confirmation in non-interactive contexts."
  | _ => none

/-! ## Causes of other parts -/

def listCommand (resource : String) : String :=
  if resource = "alarm" then "alarms ls"
  else if resource = "event" then "events ls"
  else if resource = "site" then "sites ls"
  else if resource = "user" then "users ls"
  else "devices ls"

/-- A failed operation on a controller as the failure of a run. -/
def ofClient : ClientError → Failure
  | .invalidArgument argument reason => .validation argument reason
  | .notLoggedIn => .authentication "no active session"
  | .authentication message => .authentication message
  | .transport true _ => .timedOut
  | .transport false url => .connectionFailed ((url.map Url.text).getD "")
  | .invalidUrl cause => .validation "url" cause.message
  | .tls reason => .tls reason
  | .refused refusal =>
      if refusal.status = 401 ∨ refusal.status = 403 then .authentication refusal.message
      else .refused refusal.status refusal.message refusal.text
  | .rejected message => .rejected message
  | .notFound resource identifier => .notFound resource identifier (listCommand resource)
  | .encoding reason => .json reason
  | .undecodable message _ => .undecodable message
  | .writing reason => .io reason

/-- A failed operation on a store as the failure of a run. -/
def ofStore : Store.Error → Failure
  | .noSuchCollection name => .notFound "collection" name "db ls"
  | .invalidName name => .validation "collection" ("invalid name " ++ Text.quoted name)
  | .overflow => .overflow
  | cause => .store cause

end Failure

end NetConsole
