import NetConsole.Json.Record

/-!
# Known clients

A client that the controller has seen.
-/

set_option autoImplicit false

namespace NetConsole

open Json

/-- A known client; the times it was seen count seconds. -/
structure User where
  id : String
  mac : Option String
  vendor : Option String
  siteId : Option String
  name : Option String
  hostname : Option String
  isGuest : Bool
  isWired : Bool
  blocked : Bool
  firstSeen : Option Int
  lastSeen : Option Int
  /-- the members with other keys, in ascending order of keys -/
  rest : List (String × Json)
  deriving DecidableEq, Repr, Inhabited

namespace User

def fields : List Field :=
  [.text "_id", .text? "mac", .text? "oui", .text? "site_id", .text? "name", .text? "hostname",
    .flag "is_guest", .flag "is_wired", .flag "blocked", .optional "first_seen" .signed64,
    .optional "last_seen" .signed64]

def shape : Shape := .record "User" fields true

def ofJson (value : Json) : User :=
  { id := textAt "_id" value
    mac := textAt? "mac" value
    vendor := textAt? "oui" value
    siteId := textAt? "site_id" value
    name := textAt? "name" value
    hostname := textAt? "hostname" value
    isGuest := flagAt "is_guest" value
    isWired := flagAt "is_wired" value
    blocked := flagAt "blocked" value
    firstSeen := integerAt? "first_seen" value
    lastSeen := integerAt? "last_seen" value
    rest := restAfter 11 value }

def members (r : User) : List (String × Json) :=
  [("_id", .string r.id),
   ("mac", ofText? r.mac),
   ("oui", ofText? r.vendor),
   ("site_id", ofText? r.siteId),
   ("name", ofText? r.name),
   ("hostname", ofText? r.hostname),
   ("is_guest", .bool r.isGuest),
   ("is_wired", .bool r.isWired),
   ("blocked", .bool r.blocked),
   ("first_seen", ofInteger? r.firstSeen),
   ("last_seen", ofInteger? r.lastSeen)] ++ r.rest

instance : Record User where
  shape := shape
  ofJson := ofJson
  toJson r := .object r.members

/-- The name to show: the one given to the client, else the one it gave itself. -/
def displayName? (r : User) : Option String := r.name.or r.hostname

end User

end NetConsole
