import NetConsole.Json.Record

/-!
# Devices

A device in full, with the tables that are modelled. All else that the controller tells about it is
kept in `rest`.
-/

set_option autoImplicit false

namespace NetConsole

open Json

/-- The management network settings of a device. -/
structure ManagementNetwork where
  kind : Option String
  ip : Option String
  netmask : Option String
  gateway : Option String
  dns1 : Option String
  dns2 : Option String
  dnsSuffix : Option String
  deriving DecidableEq, Repr, Inhabited

namespace ManagementNetwork

def fields : List Field :=
  [.text? "type", .text? "ip", .text? "netmask", .text? "gateway", .text? "dns1", .text? "dns2",
    .text? "dnssuffix"]

def shape : Shape := .record "ConfigNetwork" fields false

def ofJson (value : Json) : ManagementNetwork :=
  { kind := textAt? "type" value
    ip := textAt? "ip" value
    netmask := textAt? "netmask" value
    gateway := textAt? "gateway" value
    dns1 := textAt? "dns1" value
    dns2 := textAt? "dns2" value
    dnsSuffix := textAt? "dnssuffix" value }

def members (r : ManagementNetwork) : List (String × Json) :=
  [("type", ofText? r.kind),
   ("ip", ofText? r.ip),
   ("netmask", ofText? r.netmask),
   ("gateway", ofText? r.gateway),
   ("dns1", ofText? r.dns1),
   ("dns2", ofText? r.dns2),
   ("dnssuffix", ofText? r.dnsSuffix)]

instance : Record ManagementNetwork where
  shape := shape
  ofJson := ofJson
  toJson r := .object r.members

end ManagementNetwork

/-- An ethernet interface of a device. -/
structure EthernetEntry where
  mac : String
  name : Option String
  portCount : Option Int
  deriving DecidableEq, Repr, Inhabited

namespace EthernetEntry

def fields : List Field :=
  [.textOrEmpty "mac", .text? "name", .optional "num_port" .word32]

def shape : Shape := .record "EthernetEntry" fields false

def ofJson (value : Json) : EthernetEntry :=
  { mac := textAt "mac" value
    name := textAt? "name" value
    portCount := integerAt? "num_port" value }

def members (r : EthernetEntry) : List (String × Json) :=
  [("mac", .string r.mac),
   ("name", ofText? r.name),
   ("num_port", ofInteger? r.portCount)]

instance : Record EthernetEntry where
  shape := shape
  ofJson := ofJson
  toJson r := .object r.members

end EthernetEntry

/-- A port of a switch or gateway. -/
structure PortEntry where
  index : Option Int
  name : Option String
  media : Option String
  enabled : Bool
  up : Bool
  isUplink : Bool
  speed : Option Int
  fullDuplex : Bool
  poeEnabled : Bool
  poeMode : Option String
  received : Option Int
  sent : Option Int
  deriving DecidableEq, Repr, Inhabited

namespace PortEntry

def fields : List Field :=
  [.optional "port_idx" .word32, .text? "name", .text? "media", .flag "enable", .flag "up",
    .flag "is_uplink", .optional "speed" .word32, .flag "full_duplex", .flag "poe_enable",
    .text? "poe_mode", .optional "rx_bytes" .signed64, .optional "tx_bytes" .signed64]

def shape : Shape := .record "PortEntry" fields false

def ofJson (value : Json) : PortEntry :=
  { index := integerAt? "port_idx" value
    name := textAt? "name" value
    media := textAt? "media" value
    enabled := flagAt "enable" value
    up := flagAt "up" value
    isUplink := flagAt "is_uplink" value
    speed := integerAt? "speed" value
    fullDuplex := flagAt "full_duplex" value
    poeEnabled := flagAt "poe_enable" value
    poeMode := textAt? "poe_mode" value
    received := integerAt? "rx_bytes" value
    sent := integerAt? "tx_bytes" value }

def members (r : PortEntry) : List (String × Json) :=
  [("port_idx", ofInteger? r.index),
   ("name", ofText? r.name),
   ("media", ofText? r.media),
   ("enable", .bool r.enabled),
   ("up", .bool r.up),
   ("is_uplink", .bool r.isUplink),
   ("speed", ofInteger? r.speed),
   ("full_duplex", .bool r.fullDuplex),
   ("poe_enable", .bool r.poeEnabled),
   ("poe_mode", ofText? r.poeMode),
   ("rx_bytes", ofInteger? r.received),
   ("tx_bytes", ofInteger? r.sent)]

instance : Record PortEntry where
  shape := shape
  ofJson := ofJson
  toJson r := .object r.members

end PortEntry

/-- A device behind a port. -/
structure DownlinkEntry where
  mac : String
  portIndex : Option Int
  speed : Option Int
  fullDuplex : Bool
  deriving DecidableEq, Repr, Inhabited

namespace DownlinkEntry

def fields : List Field :=
  [.textOrEmpty "mac", .optional "port_idx" .word32, .optional "speed" .word32,
    .flag "full_duplex"]

def shape : Shape := .record "DownlinkEntry" fields false

def ofJson (value : Json) : DownlinkEntry :=
  { mac := textAt "mac" value
    portIndex := integerAt? "port_idx" value
    speed := integerAt? "speed" value
    fullDuplex := flagAt "full_duplex" value }

def members (r : DownlinkEntry) : List (String × Json) :=
  [("mac", .string r.mac),
   ("port_idx", ofInteger? r.portIndex),
   ("speed", ofInteger? r.speed),
   ("full_duplex", .bool r.fullDuplex)]

instance : Record DownlinkEntry where
  shape := shape
  ofJson := ofJson
  toJson r := .object r.members

end DownlinkEntry

/-- A device; its uptime counts seconds. -/
structure Device where
  id : String
  mac : String
  kind : String
  ip : Option String
  name : Option String
  model : Option String
  version : Option String
  serial : Option String
  siteId : Option String
  adopted : Bool
  disabled : Bool
  locating : Bool
  overheating : Bool
  /-- 0 offline, 1 online, 2 pending, 4 upgrading, 5 provisioning -/
  state : Int
  uptime : Option Int
  stations : Option Int
  configVersion : Option String
  ledOverride : Option String
  informUrl : Option String
  network : Option ManagementNetwork
  ethernet : List EthernetEntry
  ports : List PortEntry
  downlinks : List DownlinkEntry
  /-- the members with other keys, in ascending order of keys -/
  rest : List (String × Json)
  deriving DecidableEq, Repr, Inhabited

namespace Device

def fields : List Field :=
  [.text "_id", .textOrEmpty "mac", .textOrEmpty "type", .text? "ip", .text? "name",
    .text? "model", .text? "version", .text? "serial", .text? "site_id", .flag "adopted",
    .flag "disabled", .flag "locating", .flag "overheating",
    .mk "state" .signed32 (.filled (ofInteger 0)), .optional "uptime" .signed64,
    .optional "num_sta" .signed32, .text? "cfgversion", .text? "led_override",
    .text? "inform_url", .optional "config_network" ManagementNetwork.shape,
    .list "ethernet_table" EthernetEntry.shape, .list "port_table" PortEntry.shape,
    .list "downlink_table" DownlinkEntry.shape]

def shape : Shape := .record "Device" fields true

def ofJson (value : Json) : Device :=
  { id := textAt "_id" value
    mac := textAt "mac" value
    kind := textAt "type" value
    ip := textAt? "ip" value
    name := textAt? "name" value
    model := textAt? "model" value
    version := textAt? "version" value
    serial := textAt? "serial" value
    siteId := textAt? "site_id" value
    adopted := flagAt "adopted" value
    disabled := flagAt "disabled" value
    locating := flagAt "locating" value
    overheating := flagAt "overheating" value
    state := integerAt "state" value
    uptime := integerAt? "uptime" value
    stations := integerAt? "num_sta" value
    configVersion := textAt? "cfgversion" value
    ledOverride := textAt? "led_override" value
    informUrl := textAt? "inform_url" value
    network := (recordAt? "config_network" value).map ManagementNetwork.ofJson
    ethernet := (itemsAt "ethernet_table" value).map EthernetEntry.ofJson
    ports := (itemsAt "port_table" value).map PortEntry.ofJson
    downlinks := (itemsAt "downlink_table" value).map DownlinkEntry.ofJson
    rest := restAfter 23 value }

def members (r : Device) : List (String × Json) :=
  [("_id", .string r.id),
   ("mac", .string r.mac),
   ("type", .string r.kind),
   ("ip", ofText? r.ip),
   ("name", ofText? r.name),
   ("model", ofText? r.model),
   ("version", ofText? r.version),
   ("serial", ofText? r.serial),
   ("site_id", ofText? r.siteId),
   ("adopted", .bool r.adopted),
   ("disabled", .bool r.disabled),
   ("locating", .bool r.locating),
   ("overheating", .bool r.overheating),
   ("state", ofInteger r.state),
   ("uptime", ofInteger? r.uptime),
   ("num_sta", ofInteger? r.stations),
   ("cfgversion", ofText? r.configVersion),
   ("led_override", ofText? r.ledOverride),
   ("inform_url", ofText? r.informUrl),
   ("config_network", (r.network.map Record.toJson).getD .null),
   ("ethernet_table", .array (r.ethernet.map Record.toJson)),
   ("port_table", .array (r.ports.map Record.toJson)),
   ("downlink_table", .array (r.downlinks.map Record.toJson))] ++ r.rest

instance : Record Device where
  shape := shape
  ofJson := ofJson
  toJson r := .object r.members

/-- The name of a device, or its address when it has none. -/
def label (r : Device) : String := r.name.getD r.mac

end Device

end NetConsole
