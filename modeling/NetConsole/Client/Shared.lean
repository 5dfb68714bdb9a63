import NetConsole.Client.Basic

/-!
# A client that is shared

Callers that share a client begin requests and get answers in any order. Beginning takes one look
at the tokens: what it finds there decides whether the request is let through, and is what the
request bears. An answer is folded into the tokens that are held when it arrives, whatever they
were when its request began.
-/

set_option autoImplicit false

namespace NetConsole

/-- A request that went out and has had no answer yet. -/
structure Flight where
  request : Request
  url : Url
  sent : Sent
  deriving DecidableEq, Repr, Inhabited

/-- The session and the tokens that callers share, and the requests in flight. -/
structure SharedClient where
  session : Session
  tokens : Tokens
  flights : List Flight := []
  deriving DecidableEq, Repr, Inhabited

namespace SharedClient

inductive Event where
  /-- a caller begins a request -/
  | begins (request : Request)
  /-- the headers of the answer to a request in flight arrive -/
  | arrives (position : Nat) (answer : Answer)
  /-- a request in flight comes to nothing -/
  | fails (position : Nat)
  /-- a caller drops the tokens -/
  | clears
  deriving DecidableEq, Repr, Inhabited

/-- Begins a request under the tokens held now. -/
def begin? (shared : SharedClient) (request : Request) : Except ClientError SharedClient := do
  let (url, sent) ← Client.prepare shared.session shared.tokens request
  return { shared with flights := shared.flights ++ [{ request, url, sent }] }

/-- Takes a request out of flight. -/
def landed (shared : SharedClient) (position : Nat) : SharedClient :=
  { shared with flights := shared.flights.eraseIdx position }

def dropped (shared : SharedClient) : SharedClient := { shared with tokens := .empty }

/-- One event. A request that is refused changes nothing, nor does news of a request that is not in
flight. -/
def step (shared : SharedClient) : Event → SharedClient
  | .begins request =>
      match shared.begin? request with
      | .ok after => after
      | .error _ => shared
  | .arrives position answer =>
      if position < shared.flights.length then
        { shared.landed position with tokens := shared.tokens.absorb answer.cookies }
      else shared
  | .fails position => shared.landed position
  | .clears => shared.dropped

def run (shared : SharedClient) (events : List Event) : SharedClient := events.foldl step shared

end SharedClient

end NetConsole
