import NetConsole.Client.Http

/-!
# Session tokens

The two tokens that a controller issues as cookies and wants back. Every answer may replace or
take away either; `Tokens.absorb` folds what one answer sets into the tokens held.
-/

set_option autoImplicit false

namespace NetConsole

structure Tokens where
  session : Option String
  csrf : Option String
  deriving DecidableEq, Repr, Inhabited

namespace Tokens

def sessionName : String := "unifises"

def csrfName : String := "csrf_token"

def empty : Tokens := ⟨none, none⟩

/-- The token that a cookie value stands for; an empty value takes the token away. -/
def issued (value : String) : Option String := if value = "" then none else some value

/-- The tokens after one cookie. Cookies of other names change nothing. -/
def set (tokens : Tokens) (cookie : String × String) : Tokens :=
  if cookie.1 = sessionName then { tokens with session := issued cookie.2 }
  else if cookie.1 = csrfName then { tokens with csrf := issued cookie.2 }
  else tokens

/-- The tokens after the cookies of one answer, in their order. -/
def absorb (tokens : Tokens) (cookies : List (String × String)) : Tokens :=
  cookies.foldl set tokens

def hasSession (tokens : Tokens) : Bool := tokens.session.isSome

/-- The tokens with the names of their cookies, those that are held. -/
def pairs (tokens : Tokens) : List (String × String) :=
  (tokens.session.map fun token => (sessionName, token)).toList ++
    (tokens.csrf.map fun token => (csrfName, token)).toList

/-- The cookie header that bears the tokens held; none if there are none. -/
def header? (tokens : Tokens) : Option String :=
  match tokens.pairs with
  | [] => none
  | pairs => some ("; ".intercalate (pairs.map fun pair => pair.1 ++ "=" ++ pair.2))

end Tokens

end NetConsole
