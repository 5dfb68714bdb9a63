import NetConsole.Client.Transport
import NetConsole.Config.Controller
import NetConsole.Json.Record

/-!
# Configurations

A configuration names profiles, each of which says how to reach one controller, and what holds for
all of them.
-/

set_option autoImplicit false

namespace NetConsole

open Json

namespace Config

/-- What holds where neither a profile nor the command line says otherwise. -/
structure Defaults where
  output : String := "table"
  color : String := "auto"
  timeout : Nat := 30
  /-- keep the records of lists in the store -/
  useStore : Bool := false
  deriving DecidableEq, Repr, Inhabited

def defaultSite : String := "default"

def defaultProfileName : String := "default"

/-- How to reach one controller. -/
structure Profile where
  controller : String
  site : String := defaultSite
  username : Option String := none
  password : Option String := none
  /-- accept any certificate -/
  insecure : Option Bool := none
  /-- the path of a file of further certificates -/
  caCert : Option String := none
  timeout : Option Nat := none
  /-- the path of the directory of the store -/
  storePath : Option String := none
  deriving DecidableEq, Repr, Inhabited

end Config

/-- A configuration. Its profiles have no order of their own; they are held in ascending order of
names. -/
structure Config where
  defaultProfile : Option String
  defaults : Config.Defaults
  profiles : List (String × Config.Profile)
  deriving DecidableEq, Repr, Inhabited

namespace Config

/-- The configuration where nothing is configured. -/
def initial : Config := ⟨some defaultProfileName, {}, []⟩

def profile? (config : Config) (name : String) : Option Profile :=
  (config.profiles.find? (·.1 == name)).map (·.2)

def profileNames (config : Config) : List String := config.profiles.map (·.1)

/-- The profiles in an order of names: first those that it has, as they come in it, then the
others. -/
def inOrder (config : Config) (order : List String) : List (String × Profile) :=
  order.eraseDups.filterMap (fun name => (config.profile? name).map (name, ·)) ++
    config.profiles.filter (!order.contains ·.1)

/-! ## Profiles -/

def Profile.url (profile : Profile) : Except Error Url := controllerUrl profile.controller

/-- How connections of a profile are made. A profile that accepts any certificate needs no further
ones. -/
def Profile.transport (profile : Profile) (defaults : Defaults) : Transport :=
  { trust :=
      if profile.insecure = some true then .anyone
      else
        match profile.caCert with
        | some path => .authority path
        | none => .system
    seconds := profile.timeout.getD defaults.timeout }

/-! ## As values -/

def ofWord? (n : Option Nat) : Json := ofInteger? (n.map fun n => (n : Int))

namespace Defaults

def fields : List Field :=
  [.mk "output" .text (.filled (.string "table")), .mk "color" .text (.filled (.string "auto")),
    .mk "timeout" .word64 (.filled (ofInteger 30)), .flag "use_db"]

def shape : Shape := .record "Defaults" fields false

def ofJson (value : Json) : Defaults :=
  { output := textAt "output" value
    color := textAt "color" value
    timeout := (integerAt "timeout" value).toNat
    useStore := flagAt "use_db" value }

def members (d : Defaults) : List (String × Json) :=
  [("output", .string d.output), ("color", .string d.color), ("timeout", ofInteger d.timeout),
    ("use_db", .bool d.useStore)]

instance : Record Defaults where
  shape := shape
  ofJson := ofJson
  toJson d := .object d.members

end Defaults

namespace Profile

/-- A field that may be missing or `null`; a list of fields must hold it. -/
def nullable (key : String) (shape : Shape) : Field := .mk key (.optional shape) .null

def fields : List Field :=
  [.text "controller", .mk "site" .text (.filled (.string defaultSite)),
    nullable "username" .text, nullable "password" .text, nullable "insecure" .flag,
    nullable "ca_cert" .text, nullable "timeout" .word64, nullable "db_path" .text]

def shape : Shape := .record "Profile" fields false

def ofJson (value : Json) : Profile :=
  { controller := textAt "controller" value
    site := textAt "site" value
    username := textAt? "username" value
    password := textAt? "password" value
    insecure := flagAt? "insecure" value
    caCert := textAt? "ca_cert" value
    timeout := (integerAt? "timeout" value).map Int.toNat
    storePath := textAt? "db_path" value }

def members (p : Profile) : List (String × Json) :=
  [("controller", .string p.controller), ("site", .string p.site),
    ("username", ofText? p.username), ("password", ofText? p.password),
    ("insecure", ofFlag? p.insecure), ("ca_cert", ofText? p.caCert),
    ("timeout", ofWord? p.timeout), ("db_path", ofText? p.storePath)]

instance : Record Profile where
  shape := shape
  ofJson := ofJson
  toJson p := .object p.members

end Profile

def fields : List Field :=
  [Profile.nullable "default_profile" .text,
    .mk "defaults" Defaults.shape (.filled (Record.toJson ({} : Defaults))),
    .mk "profiles" (.keyed Profile.shape) (.filled (.object []))]

def shape : Shape := .record "Config" fields false

def ofJson (value : Json) : Config :=
  { defaultProfile := textAt? "default_profile" value
    defaults := Defaults.ofJson ((value.get? "defaults").getD (.object []))
    profiles := match value.get? "profiles" with
      | some (.object members) => members.map fun (name, profile) => (name, Profile.ofJson profile)
      | _ => [] }

def members (c : Config) : List (String × Json) :=
  [("default_profile", ofText? c.defaultProfile),
    ("defaults", Record.toJson c.defaults),
    ("profiles", .object (c.profiles.map fun (name, profile) => (name, Record.toJson profile)))]

instance : Record Config where
  shape := shape
  ofJson := ofJson
  toJson c := .object c.members

end Config

end NetConsole
