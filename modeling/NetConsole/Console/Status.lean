import NetConsole.Records.Envelope

/-!
# The status of a reply

How the verdict on a request that changes something is shown on one line.
-/

set_option autoImplicit false

namespace NetConsole

namespace Verdict

/-- The code that is shown for a verdict: an empty one counts as success. -/
def shownCode (v : Verdict) : String := if v.code = "" then "ok" else v.code

/-- The code of a verdict with its message, if it has one. -/
def shown (v : Verdict) : String :=
  match v.message with
  | none => v.shownCode
  | some message => v.shownCode ++ " (" ++ message ++ ")"

end Verdict

namespace Console

/-- The character that starts a terminal sequence. -/
def escape : String := "\x1b"

def green (s : String) : String := escape ++ "[32m" ++ s ++ escape ++ "[39m"

def red (s : String) : String := escape ++ "[31m" ++ s ++ escape ++ "[39m"

def bold (s : String) : String := escape ++ "[1m" ++ s ++ escape ++ "[0m"

/-- The status of a reply, in colour green if it is success and bold red otherwise. -/
def status (reply : CommandReply) (color : Bool) : String :=
  let text := reply.verdict.shown
  if !color then text
  else if reply.verdict.shownCode = "ok" then green text
  else bold (red text)

end Console

end NetConsole
