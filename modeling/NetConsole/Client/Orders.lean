import NetConsole.Client.Resources
import NetConsole.Records.Order

/-!
# Orders to a controller

The operations that change something: orders to the device manager and to the station manager, and
the change of a device record, which is looked up by its address first.
-/

set_option autoImplicit false

namespace NetConsole

namespace Client

def command {α : Type} [Record α] (method : Method) (path : String) (body : α) :
    Operation CommandReply :=
  execute ({ method, path : Request }.withRecord body)

/-! ## Devices -/

def deviceManagerPath : String := "cmd/devmgr"
def deviceRecordsPath : String := "rest/device"

def orderDevice (action : DeviceAction) (mac : String) : Operation CommandReply := do
  requireMac mac
  command .post deviceManagerPath ({ action, mac } : DeviceOrder)

def setLocate (mac : String) (enabled : Bool) : Operation CommandReply :=
  orderDevice (if enabled then .startLocating else .stopLocating) mac

def restartAp (mac : String) : Operation CommandReply := orderDevice .restart mac

/-- Changes the record of the device with an address. -/
def changeDevice (mac : String) (change : DeviceChange) : Operation CommandReply := do
  let id ← deviceId mac
  command .put (deviceRecordsPath ++ "/" ++ id) change

def disableAp (mac : String) (disabled : Bool) : Operation CommandReply :=
  changeDevice mac { disabled := some disabled }

/-- Gives an access point a name, which must not be blank. -/
def renameAp (mac name : String) : Operation CommandReply := do
  if Text.isBlankText name then throw (.invalidArgument "name" "cannot be empty")
  changeDevice mac { name := some name }

/-! ## Stations -/

def stationManagerPath : String := "cmd/stamgr"

def orderStation (order : StationOrder) : Operation CommandReply := do
  requireMac order.mac
  command .post stationManagerPath order

def blockClient (mac : String) (blocked : Bool) : Operation CommandReply :=
  orderStation { action := if blocked then .block else .unblock, mac }

def authorizeGuest (mac : String) (limits : GuestLimits) : Operation CommandReply :=
  orderStation { action := .authorizeGuest, mac, limits }

def unauthorizeGuest (mac : String) : Operation CommandReply :=
  orderStation { action := .unauthorizeGuest, mac }

end Client

end NetConsole
