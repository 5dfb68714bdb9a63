import NetConsole.Client.Resources
import NetConsole.Config.Basic
import NetConsole.Console.Format
import NetConsole.Store.Basic

/-!
# Views of records

Which columns and lines records are shown with, and what identifies each of them.
-/

set_option autoImplicit false

namespace NetConsole

open Console

/-! ## Records of a controller -/

def Alarm.listing : Listing Alarm :=
  { value := Record.toJson
    identifier := fun a => a.id
    header := ["ID", "Time", "Key", "Message", "Archived"]
    row := fun a =>
      [a.id, milliseconds a.time, orDash a.key, orDash a.message, yesOrNo a.archived] }

def Alarm.sheet : Sheet Alarm :=
  { value := Record.toJson
    identifier := fun a => a.id
    details := fun a => details
      [("ID", a.id), ("Time", milliseconds a.time), ("Key", orDash a.key),
        ("Message", orDash a.message), ("Subsystem", orDash a.subsystem), ("MAC", orDash a.mac),
        ("SSID", orDash a.essid), ("Occurs", integerOrDash a.occurs),
        ("Archived", toString a.archived), ("Handled by", orDash a.handledAdminId)] }

def Event.listing : Listing Event :=
  { value := Record.toJson
    identifier := fun e => e.id
    header := ["ID", "Time", "Subsystem", "Key", "Message"]
    row := fun e =>
      [e.id, milliseconds e.time, orDash e.subsystem, orDash e.key, orDash e.message] }

/-- Those whom an event names, with the words for what they are to it. -/
def Event.actors (e : Event) : List (String × String) :=
  let all : List (String × Option String) :=
    [("User", e.user), ("Guest", e.guest), ("Hostname", e.hostname), ("AP", e.ap),
      ("AP name", e.apName), ("Roamed from", e.apFrom), ("Roamed to", e.apTo),
      ("Switch", e.switch), ("Gateway", e.gateway), ("SSID", e.ssid), ("Network", e.network),
      ("Admin", e.admin)]
  all.filterMap fun (word, name) => name.map fun name => (word, name)

def Event.sheet : Sheet Event :=
  { value := Record.toJson
    identifier := fun e => e.id
    details := fun e => details
      ([("ID", e.id), ("Time", milliseconds e.time), ("Key", orDash e.key),
        ("Subsystem", orDash e.subsystem), ("Message", orDash e.message)] ++ e.actors ++
        (e.duration.map fun seconds => ("Duration", span (some seconds))).toList) }

/-- Devices in a list; their addresses identify them. -/
def DeviceSummary.listing : Listing DeviceSummary :=
  { value := Record.toJson
    identifier := fun d => d.mac
    header := ["ID", "Type", "Name", "MAC", "Model", "IP", "Version", "Adopted"]
    row := fun d =>
      [d.id, d.kind, orDash d.name, d.mac, orDash d.model, orDash d.ip, orDash d.version,
        yesOrNo d.adopted] }

/-- The lines for parts that a device may not have. -/
def Device.parts (d : Device) : List (String × String) :=
  (d.network.map fun network => ("Addressing", orDash network.kind)).toList ++
    (if d.ports.isEmpty then []
      else
        let up := (d.ports.filter (·.up)).length
        [("Ports", toString up ++ "/" ++ toString d.ports.length ++ " up")]) ++
    (if d.downlinks.isEmpty then [] else [("Downlinks", toString d.downlinks.length)])

def Device.sheet : Sheet Device :=
  { value := Record.toJson
    identifier := fun d => d.mac
    details := fun d => details
      ([("ID", d.id), ("Name", d.label), ("MAC", d.mac), ("Type", d.kind),
        ("Model", orDash d.model), ("Version", orDash d.version), ("Serial", orDash d.serial),
        ("IP", orDash d.ip), ("State", toString d.state), ("Adopted", toString d.adopted),
        ("Disabled", toString d.disabled), ("Locating", toString d.locating),
        ("Uptime", span d.uptime), ("Clients", integerOrDash d.stations)] ++ d.parts) }

/-- Sites in a list; their names identify them. -/
def Site.listing : Listing Site :=
  { value := Record.toJson
    identifier := fun s => s.name
    header := ["ID", "Name", "Description", "Role"]
    row := fun s => [s.id, s.name, orDash s.description, orDash s.role] }

def Site.sheet : Sheet Site :=
  { value := Record.toJson
    identifier := fun s => s.name
    details := fun s => details
      [("ID", s.id), ("Name", s.name), ("Description", orDash s.description),
        ("Role", orDash s.role), ("Hidden ID", orDash s.hiddenId),
        ("No delete", orDash (s.noDelete.map toString))] }

def User.listing : Listing User :=
  { value := Record.toJson
    identifier := fun u => u.id
    header := ["ID", "MAC", "Name", "Vendor", "Guest", "Blocked", "Last seen"]
    row := fun u =>
      [u.id, orDash u.mac, orDash u.displayName?, orDash u.vendor, yesOrNo u.isGuest,
        yesOrNo u.blocked, seconds u.lastSeen] }

def User.sheet : Sheet User :=
  { value := Record.toJson
    identifier := fun u => u.id
    details := fun u => details
      [("ID", u.id), ("MAC", orDash u.mac), ("Name", orDash u.name),
        ("Hostname", orDash u.hostname), ("Vendor", orDash u.vendor),
        ("Wired", toString u.isWired), ("Guest", toString u.isGuest),
        ("Blocked", toString u.blocked), ("First seen", seconds u.firstSeen),
        ("Last seen", seconds u.lastSeen)] }

namespace Console

/-! ## Answers about one device -/

structure DeviceAddress where
  mac : String
  ip : String
  deriving DecidableEq, Repr, Inhabited

def DeviceAddress.sheet : Sheet DeviceAddress :=
  { value := fun a => .object [("mac", .string a.mac), ("ip", .string a.ip)]
    identifier := fun a => a.ip
    details := fun a => a.ip }

structure LocateState where
  mac : String
  locating : Bool
  deriving DecidableEq, Repr, Inhabited

def LocateState.sheet : Sheet LocateState :=
  { value := fun s => .object [("mac", .string s.mac), ("locating", .bool s.locating)]
    identifier := fun s => toString s.locating
    details := fun s => s.mac ++ ": " ++ if s.locating then "locating" else "not locating" }

/-- A reply as a value; tables and details of it are a line of their own. -/
def replySheet : Sheet CommandReply :=
  { value := Record.toJson, identifier := fun _ => "", details := fun _ => "" }

/-! ## The store -/

def collectionListing : Listing (String × Nat) :=
  { value := fun c =>
      .object [("name", .string c.1), ("documents", .number (.integer c.2))]
    identifier := fun c => c.1
    header := ["Collection", "Documents"]
    row := fun c => [c.1, toString c.2] }

/-- The number of characters of a document that a table shows. -/
def previewLength : Nat := 80

/-- A text cut off after as many characters as a table shows, with a mark where it was cut. -/
def cutOff (s : String) : String :=
  let cs := s.toList
  if previewLength < cs.length then String.ofList (cs.take previewLength ++ ['…']) else s

/-- The key that a document is shown under. -/
def documentKey (document : Json) : String := orDash ((document.get? "_id").bind Json.text?)

def documentListing : Listing (Store.DocumentId × Json) :=
  { value := fun d => .object [("id", .number (.integer d.1)), ("document", d.2)]
    identifier := fun d => documentKey d.2
    header := ["#", "Key", "Document"]
    row := fun d => [toString d.1, documentKey d.2, cutOff d.2.compact] }

/-! ## The configuration -/

def mask : String := "****"

/-- A configuration with its passwords masked. -/
def masked (config : Config) : Config :=
  { config with
    profiles := config.profiles.map fun (name, profile) =>
      (name, { profile with password := profile.password.map fun _ => mask }) }

/-- A line with a quoted value, as it is. -/
def quotedLine (key value : String) : String := key ++ " = \"" ++ value ++ "\""

/-- A line with a bare value. -/
def bareLine (key value : String) : String := key ++ " = " ++ value

def profileLines (name : String) (profile : Config.Profile) : List String :=
  ["", "[profiles." ++ name ++ "]", quotedLine "controller" profile.controller,
    quotedLine "site" profile.site] ++
    (profile.username.map (quotedLine "username")).toList ++
    (profile.password.map (quotedLine "password")).toList ++
    (profile.insecure.map fun b => bareLine "insecure" (toString b)).toList ++
    (profile.caCert.map (quotedLine "ca_cert")).toList ++
    (profile.timeout.map fun n => bareLine "timeout" (toString n)).toList ++
    (profile.storePath.map (quotedLine "db_path")).toList

def configLines (config : Config) : List String :=
  (config.defaultProfile.map (quotedLine "default_profile")).toList ++
    ["", "[defaults]", quotedLine "output" config.defaults.output,
      quotedLine "color" config.defaults.color,
      bareLine "timeout" (toString config.defaults.timeout),
      bareLine "use_db" (toString config.defaults.useStore)] ++
    config.profiles.flatMap fun (name, profile) => profileLines name profile

/-- How a configuration is shown. People see its profiles in ascending order of names, programs in
the order of names in which a run comes across them. -/
def configSheet (order : List String) : Sheet Config :=
  { value := fun c => Record.toJson { c with profiles := c.inOrder order }
    identifier := fun c => c.defaultProfile.getD ""
    details := fun c => Text.trimEnd ("\n".intercalate (configLines c)) }

end Console

end NetConsole
