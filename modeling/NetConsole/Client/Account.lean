import NetConsole.Client.Basic

/-!
# Logging in and out

A login drops the tokens held first, so that those held afterwards are the ones it was issued. A
logout drops them only when it succeeded.
-/

set_option autoImplicit false

namespace NetConsole

open Json

namespace Client

def credentials (username password : String) : Json :=
  .object [("username", .string username), ("password", .string password)]

def loginRequest (username password : String) : Request :=
  { method := .post, path := "/api/login", anonymous := true
    body := some (Text.bytes (credentials username password).compact) }

def logoutRequest : Request := { method := .post, path := "/api/logoff", anonymous := true }

def dropTokens : Operation Unit := modify fun client => { client with tokens := .empty }

/-- Which of the two tokens a login failed to issue. -/
def missingToken (tokens : Tokens) : Option String :=
  if tokens.session.isNone then some "controller did not issue a session cookie"
  else if tokens.csrf.isNone then some "controller did not issue a CSRF token"
  else none

def loginShape : Shape := .optional (Envelope.shape .any)

/-- The status that a login reports: the verdict's code, or `ok` where there is none. -/
def loginStatus (username : String) (answer : Json) : LoginStatus :=
  let verdict := (recordAt? "meta" answer).map Verdict.ofJson
  let code := (verdict.map (·.code)).filter (· ≠ "")
  { username, status := code.getD "ok", message := verdict.bind (·.message) }

/-- Logs in. A login that was not issued both tokens fails and leaves none. -/
def login (username password : String) : Operation LoginStatus := do
  dropTokens
  let (_, value) ← executeShape loginShape (loginRequest username password)
  let client ← get
  match missingToken client.tokens with
  | some message =>
      dropTokens
      throw (.authentication message)
  | none => return loginStatus username value

/-- Logs out. A logout that fails leaves the tokens as they are. -/
def logout : Operation Unit := do
  let client ← get
  match (executeBytes logoutRequest).run client with
  | (.ok _, after) => set { after with tokens := .empty }
  | (.error cause, after) =>
      set after
      throw cause

end Client

end NetConsole
