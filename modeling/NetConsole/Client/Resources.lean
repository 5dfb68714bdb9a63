import NetConsole.Client.Basic
import NetConsole.Records.Alarm
import NetConsole.Records.Event
import NetConsole.Records.DeviceSummary
import NetConsole.Records.Site
import NetConsole.Records.User

/-!
# Lists and lookups

What a controller is asked for: lists of records, the record with a number, the device with an
address.
-/

set_option autoImplicit false

namespace NetConsole

namespace Client

/-- The records of a list. An envelope with a verdict other than success is a rejection. -/
def list (α : Type) [Record α] (path : String) (paging : Option Paging) : Operation (List α) := do
  let request : Request := { method := .get, path, query := Paging.pairs? paging }
  let (_, value) ← executeShape (Envelope.shape (Record.shape α)) request
  match (Envelope.ofJson value : Envelope α).accepted with
  | .ok records => return records
  | .error message => throw (.rejected message)

/-- The first record at a path. -/
def first (α : Type) [Record α] (resource path identifier : String) : Operation α := do
  let records ← list α path none
  match records with
  | record :: _ => return record
  | [] => throw (.notFound resource identifier)

/-- The record with a number, which counts from one. -/
def lookup (α : Type) [Record α] (resource path : String) (id : Int) : Operation α := do
  if id < 1 then throw (.invalidArgument "id" "cannot be less than 1")
  first α resource (path ++ "/" ++ toString id) (toString id)

/-! ## Resources by name -/

def alarmsPath : String := "list/alarm"
def eventsPath : String := "list/event"
def devicesPath : String := "stat/device"
/-- Where sites are; they belong to the controller and not to one site. -/
def sitesPath : String := "/v1/sites"
def usersPath : String := "list/user"

def listAlarms (paging : Option Paging) : Operation (List Alarm) := list Alarm alarmsPath paging
def getAlarm (id : Int) : Operation Alarm := lookup Alarm "alarm" alarmsPath id

def listEvents (paging : Option Paging) : Operation (List Event) := list Event eventsPath paging
def getEvent (id : Int) : Operation Event := lookup Event "event" eventsPath id

/-- The sites that the account may see. -/
def listSites (paging : Option Paging) : Operation (List Site) := list Site sitesPath paging
def getSite (id : Int) : Operation Site := lookup Site "site" sitesPath id

def listUsers (paging : Option Paging) : Operation (List User) := list User usersPath paging
def getUser (id : Int) : Operation User := lookup User "user" usersPath id

def listDevices (paging : Option Paging) : Operation (List Device) := list Device devicesPath paging
def getDevice (id : Int) : Operation Device := lookup Device "device" devicesPath id

/-- The devices that pass a filter, in short. The filter is applied to all the devices listed. -/
def listDevicesShort (filter : DeviceFilter) (paging : Option Paging) :
    Operation (List DeviceSummary) := do
  let devices ← listDevices paging
  return (devices.filter filter.allows).map DeviceSummary.ofDevice

/-! ## Devices by address -/

/-- An address must not be blank; it is used as it is given. -/
def requireMac (mac : String) : Operation Unit :=
  if Text.isBlankText mac then throw (.invalidArgument "mac" "cannot be empty") else pure ()

def getDeviceByMac (mac : String) : Operation Device := do
  requireMac mac
  first Device "device" (devicesPath ++ "/" ++ mac) mac

/-- The network address of the device with an address; one that is empty counts as none. -/
def deviceIp (mac : String) : Operation String := do
  let device ← getDeviceByMac mac
  match device.ip.filter (· ≠ "") with
  | some ip => return ip
  | none => throw (.notFound "device IP" device.mac)

/-- The id under which the controller keeps the device with an address. -/
def deviceId (mac : String) : Operation String := do
  let device ← getDeviceByMac mac
  return device.id

/-- Whether the locate light of the device with an address is on. -/
def isLocating (mac : String) : Operation Bool := do
  let device ← getDeviceByMac mac
  return device.locating

end Client

end NetConsole
