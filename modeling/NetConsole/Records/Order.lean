import NetConsole.Json.Record

/-!
# Orders

The bodies of the requests that change something: orders to the device manager and to the station
manager, and changes of a device record. Limits and changes that are not set are left out.
-/

set_option autoImplicit false

namespace NetConsole

open Json

/-- A member for a value that is set. -/
def memberIf (key : String) : Option Json → List (String × Json)
  | none => []
  | some value => [(key, value)]

/-! ## The device manager -/

/-- What the device manager can be told to do. -/
inductive DeviceAction where
  | startLocating
  | stopLocating
  | restart
  deriving DecidableEq, Repr, Inhabited

namespace DeviceAction

def name : DeviceAction → String
  | .startLocating => "set-locate"
  | .stopLocating => "unset-locate"
  | .restart => "restart"

def every : List DeviceAction := [.startLocating, .stopLocating, .restart]

def ofName? (text : String) : Option DeviceAction := every.find? (·.name == text)

end DeviceAction

/-- An order to the device manager. -/
structure DeviceOrder where
  action : DeviceAction
  mac : String
  deriving DecidableEq, Repr, Inhabited

namespace DeviceOrder

def shape : Shape :=
  .record "DevMgrCommand"
    [.mk "cmd" (.variant (DeviceAction.every.map (·.name))) .refused, .text "mac"] false

def ofJson (value : Json) : DeviceOrder :=
  { action := (DeviceAction.ofName? (textAt "cmd" value)).getD default
    mac := textAt "mac" value }

def members (o : DeviceOrder) : List (String × Json) :=
  [("cmd", .string o.action.name), ("mac", .string o.mac)]

instance : Record DeviceOrder where
  shape := shape
  ofJson := ofJson
  toJson o := .object o.members

end DeviceOrder

/-! ## The station manager -/

/-- What the station manager can be told to do. -/
inductive StationAction where
  | block
  | unblock
  | authorizeGuest
  | unauthorizeGuest
  deriving DecidableEq, Repr, Inhabited

namespace StationAction

def name : StationAction → String
  | .block => "block-sta"
  | .unblock => "unblock-sta"
  | .authorizeGuest => "authorize-guest"
  | .unauthorizeGuest => "unauthorize-guest"

def every : List StationAction := [.block, .unblock, .authorizeGuest, .unauthorizeGuest]

def ofName? (text : String) : Option StationAction := every.find? (·.name == text)

end StationAction

/-- The limits of a guest's access: minutes, kilobits per second up and down, megabytes in all,
and the access point that the guest is at. -/
structure GuestLimits where
  minutes : Option Int := none
  up : Option Int := none
  down : Option Int := none
  bytes : Option Int := none
  accessPoint : Option String := none
  deriving DecidableEq, Repr, Inhabited

/-- An order to the station manager. -/
structure StationOrder where
  action : StationAction
  mac : String
  limits : GuestLimits := {}
  deriving DecidableEq, Repr, Inhabited

namespace StationOrder

def shape : Shape :=
  .record "StaMgrCommand"
    [.mk "cmd" (.variant (StationAction.every.map (·.name))) .refused, .text "mac",
      .optional "minutes" .word32, .optional "up" .word32, .optional "down" .word32,
      .optional "bytes" .word64, .text? "ap_mac"] false

def ofJson (value : Json) : StationOrder :=
  { action := (StationAction.ofName? (textAt "cmd" value)).getD default
    mac := textAt "mac" value
    limits :=
      { minutes := integerAt? "minutes" value
        up := integerAt? "up" value
        down := integerAt? "down" value
        bytes := integerAt? "bytes" value
        accessPoint := textAt? "ap_mac" value } }

/-- The members of an order; a limit only if it is set. -/
def members (o : StationOrder) : List (String × Json) :=
  [("cmd", .string o.action.name), ("mac", .string o.mac)] ++
    memberIf "minutes" (o.limits.minutes.map ofInteger) ++
    memberIf "up" (o.limits.up.map ofInteger) ++
    memberIf "down" (o.limits.down.map ofInteger) ++
    memberIf "bytes" (o.limits.bytes.map ofInteger) ++
    memberIf "ap_mac" (o.limits.accessPoint.map .string)

instance : Record StationOrder where
  shape := shape
  ofJson := ofJson
  toJson o := .object o.members

end StationOrder

/-! ## Changes of a device record -/

/-- A change of a device record; what is not set stays as it is. -/
structure DeviceChange where
  disabled : Option Bool := none
  name : Option String := none
  deriving DecidableEq, Repr, Inhabited

namespace DeviceChange

def shape : Shape := .record "DeviceUpdate" [.flag? "disabled", .text? "name"] false

def ofJson (value : Json) : DeviceChange :=
  { disabled := flagAt? "disabled" value, name := textAt? "name" value }

/-- The members of a change; only what is set. -/
def members (c : DeviceChange) : List (String × Json) :=
  memberIf "disabled" (c.disabled.map .bool) ++ memberIf "name" (c.name.map .string)

instance : Record DeviceChange where
  shape := shape
  ofJson := ofJson
  toJson c := .object c.members

end DeviceChange

end NetConsole
