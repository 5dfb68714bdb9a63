import NetConsole.Json.Record

/-!
# Sites

A site that the account may see.
-/

set_option autoImplicit false

namespace NetConsole

open Json

/-- A site; its name is the one that request paths use. -/
structure Site where
  id : String
  name : String
  description : Option String
  role : Option String
  hiddenId : Option String
  noDelete : Option Bool
  /-- the members with other keys, in ascending order of keys -/
  rest : List (String × Json)
  deriving DecidableEq, Repr, Inhabited

namespace Site

def fields : List Field :=
  [.text "_id", .textOrEmpty "name", .text? "desc", .text? "role", .text? "attr_hidden_id",
    .flag? "attr_no_delete"]

def shape : Shape := .record "Site" fields true

def ofJson (value : Json) : Site :=
  { id := textAt "_id" value
    name := textAt "name" value
    description := textAt? "desc" value
    role := textAt? "role" value
    hiddenId := textAt? "attr_hidden_id" value
    noDelete := flagAt? "attr_no_delete" value
    rest := restAfter 6 value }

def members (r : Site) : List (String × Json) :=
  [("_id", .string r.id),
   ("name", .string r.name),
   ("desc", ofText? r.description),
   ("role", ofText? r.role),
   ("attr_hidden_id", ofText? r.hiddenId),
   ("attr_no_delete", ofFlag? r.noDelete)] ++ r.rest

instance : Record Site where
  shape := shape
  ofJson := ofJson
  toJson r := .object r.members

end Site

end NetConsole
