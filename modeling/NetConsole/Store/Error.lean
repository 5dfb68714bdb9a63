import NetConsole.Json.Reason
import NetConsole.Text.Quoted

/-!
# Why an operation on a store fails
-/

set_option autoImplicit false

namespace NetConsole.Store

/-- The cause for which an operation on a store does not succeed; paths are given as texts. -/
inductive Error where
  | noSuchCollection (name : String)
  | collectionExists (name : String)
  | invalidName (name : String)
  | noSuchDocument (collection : String) (id : Nat)
  /-- the files of the store cannot be read or written -/
  | files (path : String)
  /-- a file of the store does not hold a collection -/
  | corrupt (path : String) (reason : Json.Reason)
  /-- a collection has no number left; counting on breaks the whole program off -/
  | overflow
  deriving DecidableEq, Repr, Inhabited

def Error.message : Error → String
  | .noSuchCollection name => "Collection " ++ Text.quoted name ++ " does not exist"
  | .collectionExists name => "Collection " ++ Text.quoted name ++ " already exists"
  | .invalidName name =>
      "Invalid collection name " ++ Text.quoted name ++ ": use letters, digits, '-' or '_'"
  | .noSuchDocument collection id =>
      "Document " ++ toString id ++ " not found in " ++ collection
  | .files path => "I/O error on " ++ path
  | .corrupt path reason => "Corrupt collection file " ++ path ++ ": " ++ reason.message
  | .overflow => "attempt to add with overflow"

end NetConsole.Store
