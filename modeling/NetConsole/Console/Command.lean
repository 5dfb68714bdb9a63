import NetConsole.Arguments.Reading
import NetConsole.Client.Orders
import NetConsole.Console.Format

/-!
# Commands

What the program can be asked to do, and the options that hold for all commands.
-/

set_option autoImplicit false

namespace NetConsole.Console

/-! ## Options -/

/-- When output has colours. -/
inductive ColorMode where
  | auto
  | always
  | never
  deriving DecidableEq, Repr, Inhabited

namespace ColorMode

def name : ColorMode → String
  | .auto => "auto"
  | .always => "always"
  | .never => "never"

def every : List ColorMode := [.auto, .always, .never]

def ofName? (text : String) : Option ColorMode := every.find? (·.name == lowerAscii text)

end ColorMode

/-- What holds for all commands: where to connect to and as whom, how output looks, and where
records are kept. -/
structure Options where
  profile : Option String := none
  controller : Option String := none
  site : Option String := none
  username : Option String := none
  password : Option String := none
  output : Option Format := none
  color : Option ColorMode := none
  verbosity : Nat := 0
  quiet : Bool := false
  yes : Bool := false
  insecure : Bool := false
  timeout : Option Nat := none
  useStore : Bool := false
  storePath : Option String := none
  logFile : Option String := none
  deriving DecidableEq, Repr, Inhabited

/-! ## Commands for a controller -/

/-- To list records, or to get the one with a number. -/
inductive RecordCommand where
  | list (paging : Paging)
  | get (id : Int)
  deriving DecidableEq, Repr, Inhabited

inductive DeviceCommand where
  | list (filter : DeviceFilter) (paging : Paging)
  | get (id : Int)
  | inspect (mac : String)
  | address (mac : String)
  deriving DecidableEq, Repr, Inhabited

inductive AccessPointCommand where
  | locate (mac : String) (off : Bool)
  | locating (mac : String)
  | restart (mac : String)
  | disable (mac : String)
  | enable (mac : String)
  | rename (mac name : String)
  deriving DecidableEq, Repr, Inhabited

inductive StationCommand where
  | block (mac : String)
  | unblock (mac : String)
  | authorizeGuest (mac : String) (limits : GuestLimits)
  | unauthorizeGuest (mac : String)
  deriving DecidableEq, Repr, Inhabited

/-- A request as the user words it. -/
structure RawCommand where
  method : Method
  path : String
  data : Option String
  deriving DecidableEq, Repr, Inhabited

/-- A command that needs a controller. -/
inductive ControllerCommand where
  | alarms (command : RecordCommand)
  | events (command : RecordCommand)
  | devices (command : DeviceCommand)
  | accessPoints (command : AccessPointCommand)
  | stations (command : StationCommand)
  | users (command : RecordCommand)
  | sites (command : RecordCommand)
  | raw (command : RawCommand)
  deriving DecidableEq, Repr, Inhabited

/-! ## Commands for the store and the configuration -/

/-- A kind of records that the store keeps. -/
inductive Resource where
  | alarms
  | events
  | devices
  | sites
  | users
  deriving DecidableEq, Repr, Inhabited

namespace Resource

def name : Resource → String
  | .alarms => "alarms"
  | .events => "events"
  | .devices => "devices"
  | .sites => "sites"
  | .users => "users"

def collection : Resource → String
  | .alarms => "Alarms"
  | .events => "Events"
  | .devices => "Devices"
  | .sites => "Sites"
  | .users => "Users"

def every : List Resource := [.alarms, .events, .devices, .sites, .users]

def ofName? (text : String) : Option Resource := every.find? (·.name == text)

end Resource

/-- What can be done with the store; what is cleaned is one resource or all of them. -/
inductive StoreCommand where
  | list
  | show (collection : String)
  | clean (target : Option Resource)
  deriving DecidableEq, Repr, Inhabited

inductive ConfigCommand where
  | init
  | show
  | setPassword
  deriving DecidableEq, Repr, Inhabited

/-- A command. Completions are made for the shell with a name. -/
inductive Command where
  | controller (command : ControllerCommand)
  | store (command : StoreCommand)
  | config (command : ConfigCommand)
  | completions (shell : String)
  deriving DecidableEq, Repr, Inhabited

structure Invocation where
  options : Options
  command : Command
  deriving DecidableEq, Repr, Inhabited

end NetConsole.Console
