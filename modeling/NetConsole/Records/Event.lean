import NetConsole.Json.Record

/-!
# Events

An event from the log of the controller. Which of its fields are present depends on its key.
-/

set_option autoImplicit false

namespace NetConsole

open Json

/-- An event; its time counts milliseconds and its duration seconds. -/
structure Event where
  id : String
  key : Option String
  message : Option String
  siteId : Option String
  subsystem : Option String
  datetime : Option String
  time : Option Int
  admin : Option String
  ap : Option String
  apName : Option String
  apFrom : Option String
  apTo : Option String
  switch : Option String
  switchName : Option String
  gateway : Option String
  user : Option String
  guest : Option String
  hostname : Option String
  ssid : Option String
  network : Option String
  duration : Option Int
  bytes : Option Int
  isAdmin : Bool
  /-- the members with other keys, in ascending order of keys -/
  rest : List (String × Json)
  deriving DecidableEq, Repr, Inhabited

namespace Event

def fields : List Field :=
  [.text "_id", .text? "key", .text? "msg", .text? "site_id", .text? "subsystem",
    .text? "datetime", .optional "time" .signed64, .text? "admin", .text? "ap", .text? "ap_name",
    .text? "ap_from", .text? "ap_to", .text? "sw", .text? "sw_name", .text? "gw", .text? "user",
    .text? "guest", .text? "hostname", .text? "ssid", .text? "network",
    .optional "duration" .signed64, .optional "bytes" .word64, .flag "is_admin"]

def shape : Shape := .record "Event" fields true

def ofJson (value : Json) : Event :=
  { id := textAt "_id" value
    key := textAt? "key" value
    message := textAt? "msg" value
    siteId := textAt? "site_id" value
    subsystem := textAt? "subsystem" value
    datetime := textAt? "datetime" value
    time := integerAt? "time" value
    admin := textAt? "admin" value
    ap := textAt? "ap" value
    apName := textAt? "ap_name" value
    apFrom := textAt? "ap_from" value
    apTo := textAt? "ap_to" value
    switch := textAt? "sw" value
    switchName := textAt? "sw_name" value
    gateway := textAt? "gw" value
    user := textAt? "user" value
    guest := textAt? "guest" value
    hostname := textAt? "hostname" value
    ssid := textAt? "ssid" value
    network := textAt? "network" value
    duration := integerAt? "duration" value
    bytes := integerAt? "bytes" value
    isAdmin := flagAt "is_admin" value
    rest := restAfter 23 value }

def members (r : Event) : List (String × Json) :=
  [("_id", .string r.id),
   ("key", ofText? r.key),
   ("msg", ofText? r.message),
   ("site_id", ofText? r.siteId),
   ("subsystem", ofText? r.subsystem),
   ("datetime", ofText? r.datetime),
   ("time", ofInteger? r.time),
   ("admin", ofText? r.admin),
   ("ap", ofText? r.ap),
   ("ap_name", ofText? r.apName),
   ("ap_from", ofText? r.apFrom),
   ("ap_to", ofText? r.apTo),
   ("sw", ofText? r.switch),
   ("sw_name", ofText? r.switchName),
   ("gw", ofText? r.gateway),
   ("user", ofText? r.user),
   ("guest", ofText? r.guest),
   ("hostname", ofText? r.hostname),
   ("ssid", ofText? r.ssid),
   ("network", ofText? r.network),
   ("duration", ofInteger? r.duration),
   ("bytes", ofInteger? r.bytes),
   ("is_admin", .bool r.isAdmin)] ++ r.rest

instance : Record Event where
  shape := shape
  ofJson := ofJson
  toJson r := .object r.members

end Event

end NetConsole
