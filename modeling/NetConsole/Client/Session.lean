import NetConsole.Client.Error
import NetConsole.Url.Reader

/-!
# The scope of a session

Where the requests of a session go: the root of the controller and, below it, the place of one
site. A path from a slash on starts at the root, any other at the site.
-/

set_option autoImplicit false

namespace NetConsole

def version : String := "0.1.0"

def defaultUserAgent : String := "unified/" ++ version

/-- The scope of a session and the name under which it makes requests. -/
structure Session where
  root : Url
  siteBase : Url
  site : String
  userAgent : String
  deriving DecidableEq, Repr, Inhabited

namespace Session

/-- The session with a controller for one site. The path of the controller's URL is where its
root is, with or without a slash at the end. -/
def open? (controller : Url) (site : String) : Except ClientError Session :=
  if site = "" then .error (.invalidArgument "site" "cannot be empty")
  else
    let root := controller.withTrailingSlash
    match root.join ("api/s/" ++ site ++ "/") with
    | .error cause => .error (.invalidUrl cause)
    | .ok siteBase => .ok { root, siteBase, site, userAgent := defaultUserAgent }

/-- The session under the name of a caller as well. -/
def withUserAgent (session : Session) (name : String) : Session :=
  { session with userAgent := name ++ "+" ++ defaultUserAgent }

/-- The URL of a path. -/
def resolve (session : Session) (path : String) : Except ClientError Url :=
  let resolved := match path.toList with
    | '/' :: rest => session.root.join (String.ofList rest)
    | _ => session.siteBase.join path
  match resolved with
  | .ok url => .ok url
  | .error cause => .error (.invalidUrl cause)

end Session

end NetConsole
