import NetConsole.Config.Error
import NetConsole.Text.Blank
import NetConsole.Url.Reader

/-!
# The address of a controller
-/

set_option autoImplicit false

namespace NetConsole.Config

/-- Whether a text has another one somewhere in it. -/
def hasPart (part : List Char) : List Char → Bool
  | [] => part.isEmpty
  | c :: rest => part.isPrefixOf (c :: rest) || hasPart part rest

def schemeMark : String := "://"

/-- The URL of a controller. A text without a scheme is taken for a secure address; schemes other
than those of the web are refused. -/
def controllerUrl (text : String) : Except Error Url :=
  let address := Text.trim text
  let refuse := fun (reason : String) => Except.error (.validation "controller" reason)
  if address = "" then refuse "cannot be empty"
  else
    let full :=
      if hasPart schemeMark.toList address.toList then address else "https" ++ schemeMark ++ address
    match Url.parse full with
    | .error cause => refuse ("invalid URL " ++ address ++ ": " ++ cause.message)
    | .ok url =>
        if url.isHttp then .ok url else refuse ("unsupported scheme '" ++ url.scheme ++ "'")

end NetConsole.Config
