/-!
# Why a configuration is refused
-/

set_option autoImplicit false

namespace NetConsole.Config

/-- What is wrong with a configuration value. -/
inductive Flaw where
  /-- the file cannot be read as a table, or the flaw has no place of its own -/
  | unreadable
  /-- the value has another type than is wanted -/
  | wrongType
  /-- the value has the right type but cannot stand here -/
  | wrongValue
  /-- a list is too short for the fields that it should hold -/
  | wrongLength
  /-- a field that must be there is missing -/
  | missingField
  deriving DecidableEq, Repr, Inhabited

/-- The cause for which a configuration is refused. -/
inductive Error where
  /-- a value is well formed and yet makes no sense -/
  | validation (field reason : String)
  /-- a profile has no username -/
  | noCredentials (profile : String)
  /-- the value at a path of keys cannot be read -/
  | unreadable (flaw : Flaw) (path : List String)
  /-- the configuration cannot be written as a table -/
  | unwritable
  /-- the file cannot be read or written -/
  | files
  deriving DecidableEq, Repr, Inhabited

/-- The wording of the causes that have one of their own. -/
def Error.message? : Error → Option String
  | .validation field reason => some ("invalid " ++ field ++ ": " ++ reason)
  | .noCredentials profile =>
      some ("no credentials configured for profile '" ++ profile ++ "'")
  | _ => none

end NetConsole.Config
