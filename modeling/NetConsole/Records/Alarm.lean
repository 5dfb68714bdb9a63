import NetConsole.Json.Record

/-!
# Alarms

An alarm that the controller raised.
-/

set_option autoImplicit false

namespace NetConsole

open Json

/-- An alarm; its time counts milliseconds. -/
structure Alarm where
  id : String
  archived : Bool
  datetime : Option String
  time : Option Int
  essid : Option String
  handledAdminId : Option String
  handledTime : Option String
  key : Option String
  mac : Option String
  message : Option String
  occurs : Option Int
  siteId : Option String
  subsystem : Option String
  /-- the members with other keys, in ascending order of keys -/
  rest : List (String × Json)
  deriving DecidableEq, Repr, Inhabited

namespace Alarm

def fields : List Field :=
  [.text "_id", .flag "archived", .text? "datetime", .optional "time" .signed64, .text? "essid",
    .text? "handled_admin_id", .text? "handled_time", .text? "key", .text? "mac", .text? "msg",
    .optional "occurs" .signed64, .text? "site_id", .text? "subsystem"]

def shape : Shape := .record "Alarm" fields true

def ofJson (value : Json) : Alarm :=
  { id := textAt "_id" value
    archived := flagAt "archived" value
    datetime := textAt? "datetime" value
    time := integerAt? "time" value
    essid := textAt? "essid" value
    handledAdminId := textAt? "handled_admin_id" value
    handledTime := textAt? "handled_time" value
    key := textAt? "key" value
    mac := textAt? "mac" value
    message := textAt? "msg" value
    occurs := integerAt? "occurs" value
    siteId := textAt? "site_id" value
    subsystem := textAt? "subsystem" value
    rest := restAfter 13 value }

def members (r : Alarm) : List (String × Json) :=
  [("_id", .string r.id),
   ("archived", .bool r.archived),
   ("datetime", ofText? r.datetime),
   ("time", ofInteger? r.time),
   ("essid", ofText? r.essid),
   ("handled_admin_id", ofText? r.handledAdminId),
   ("handled_time", ofText? r.handledTime),
   ("key", ofText? r.key),
   ("mac", ofText? r.mac),
   ("msg", ofText? r.message),
   ("occurs", ofInteger? r.occurs),
   ("site_id", ofText? r.siteId),
   ("subsystem", ofText? r.subsystem)] ++ r.rest

instance : Record Alarm where
  shape := shape
  ofJson := ofJson
  toJson r := .object r.members

end Alarm

end NetConsole
