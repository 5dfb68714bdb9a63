/-!
# Environments

The variables that a program is started with.
-/

set_option autoImplicit false

namespace NetConsole

abbrev Environment := List (String × String)

def Environment.find? (environment : Environment) (name : String) : Option String :=
  (List.find? (fun entry => entry.1 == name) environment).map (·.2)

end NetConsole
