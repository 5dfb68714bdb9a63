import NetConsole.Records.Device

/-!
# Device summaries

What a listing shows of a device, and which devices it shows.
-/

set_option autoImplicit false

namespace NetConsole

open Json

/-- The few fields of a device that a listing shows. -/
structure DeviceSummary where
  id : String
  kind : String
  mac : String
  name : Option String
  model : Option String
  ip : Option String
  serial : Option String
  siteId : Option String
  version : Option String
  adopted : Bool
  deriving DecidableEq, Repr, Inhabited

namespace DeviceSummary

def fields : List Field :=
  [.text "_id", .text "type", .text "mac", nullable "name", nullable "model", nullable "ip",
    nullable "serial", nullable "site_id", nullable "version", .mk "adopted" .flag .refused]
where
  nullable (key : String) : Field := .mk key (.optional .text) .null

def shape : Shape := .record "DeviceShort" fields false

def ofJson (value : Json) : DeviceSummary :=
  { id := textAt "_id" value
    kind := textAt "type" value
    mac := textAt "mac" value
    name := textAt? "name" value
    model := textAt? "model" value
    ip := textAt? "ip" value
    serial := textAt? "serial" value
    siteId := textAt? "site_id" value
    version := textAt? "version" value
    adopted := flagAt "adopted" value }

def members (r : DeviceSummary) : List (String × Json) :=
  [("_id", .string r.id),
   ("type", .string r.kind),
   ("mac", .string r.mac),
   ("name", ofText? r.name),
   ("model", ofText? r.model),
   ("ip", ofText? r.ip),
   ("serial", ofText? r.serial),
   ("site_id", ofText? r.siteId),
   ("version", ofText? r.version),
   ("adopted", .bool r.adopted)]

instance : Record DeviceSummary where
  shape := shape
  ofJson := ofJson
  toJson r := .object r.members

def ofDevice (d : Device) : DeviceSummary :=
  { id := d.id, kind := d.kind, mac := d.mac, name := d.name, model := d.model, ip := d.ip
    serial := d.serial, siteId := d.siteId, version := d.version, adopted := d.adopted }

end DeviceSummary

/-- Which devices a listing shows. -/
inductive DeviceFilter where
  | all
  | accessPoints
  | gateways
  | switches
  deriving DecidableEq, Repr, Inhabited

namespace DeviceFilter

/-- The name of a filter; except for the first it is the kind of the devices that pass. -/
def name : DeviceFilter → String
  | .all => "all"
  | .accessPoints => "uap"
  | .gateways => "ugw"
  | .switches => "usw"

def every : List DeviceFilter := [.all, .accessPoints, .gateways, .switches]

def ofName? (text : String) : Option DeviceFilter := every.find? (·.name == text)

/-- Whether a device passes. -/
def allows (filter : DeviceFilter) (device : Device) : Bool :=
  filter == .all || device.kind == filter.name

end DeviceFilter

end NetConsole
