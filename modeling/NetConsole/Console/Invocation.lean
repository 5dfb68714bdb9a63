import NetConsole.Console.Command

/-!
# Invocations

The command line of the program: its grammar, and the invocation that a line is.
-/

set_option autoImplicit false

namespace NetConsole.Console

open Arguments

/-! ## Options -/

/-- An option that takes a value. -/
def option (name : String) (kind : Kind) (letter : Option Char := none)
    (standIn : Option String := none) : Parameter :=
  { name, letter, effect := .value kind, standIn }

def flag (name : String) (letter : Option Char := none) : Parameter :=
  { name, letter, effect := .mark }

/-- The parameters that all commands share. -/
def sharedParameters : List Parameter :=
  [option "profile" .text (some 'p') (some "UNIFIED_PROFILE"),
    option "controller" .text (some 'c') (some "UNIFIED_CONTROLLER"),
    option "site" .text (some 's') (some "UNIFIED_SITE"),
    option "username" .text (some 'u') (some "UNIFIED_USERNAME"),
    option "password" .text none (some "UNIFIED_PASSWORD"),
    option "output" (.choice (Format.every.map Format.name)) (some 'o') (some "UNIFIED_OUTPUT"),
    option "color" (.choice (ColorMode.every.map ColorMode.name)),
    { name := "verbose", letter := some 'v', effect := .tally },
    flag "quiet" (some 'q'), flag "yes" (some 'y'), flag "insecure" (some 'k'),
    option "timeout" .word none (some "UNIFIED_TIMEOUT"),
    flag "use-db" (some 'b'),
    option "db-path" .path none (some "UNIFIED_DB_PATH"),
    option "log-file" .path]

def Options.ofMatches (found : Matches) : Options :=
  { profile := found.text? "profile"
    controller := found.text? "controller"
    site := found.text? "site"
    username := found.text? "username"
    password := found.text? "password"
    output := (found.text? "output").bind Format.ofName?
    color := (found.text? "color").bind ColorMode.ofName?
    verbosity := found.number "verbose"
    quiet := found.has "quiet"
    yes := found.has "yes"
    insecure := found.has "insecure"
    timeout := (found.integer? "timeout").map Int.toNat
    useStore := found.has "use-db"
    storePath := found.text? "db-path"
    logFile := found.text? "log-file" }

/-! ## Commands -/

def pagingParameters : List Parameter := [option "page" .word32, option "per-page" .word32]

def pagingOf (found : Matches) : Paging := ⟨found.number "page", found.number "per-page"⟩

def idPlace : Place := { name := "id", kind := .signed64, allowsNegative := true }

def macPlace : Place := { name := "mac", kind := .text }

def macCommand (name : String) (meaning : String → Console.Command) :
    Arguments.Command Console.Command :=
  .leaf name [] [] [macPlace] fun found => meaning (found.text "mac")

/-- The command that gets a record by its number. -/
def getCommand (meaning : Int → Console.Command) : Arguments.Command Console.Command :=
  .leaf "get" [] [] [idPlace] fun found => meaning (found.integer "id")

def recordGroup (name : String) (aliases : List String)
    (meaning : RecordCommand → ControllerCommand) : Arguments.Command Console.Command :=
  .group name aliases
    [.leaf "list" ["ls"] pagingParameters [] fun found =>
        .controller (meaning (.list (pagingOf found))),
      getCommand fun id => .controller (meaning (.get id))]

def deviceGroup : Arguments.Command Console.Command :=
  let command := fun c => Console.Command.controller (.devices c)
  let kind := option "type" (.choice (DeviceFilter.every.map DeviceFilter.name)) (some 't')
  .group "devices" ["dev", "device"]
    [.leaf "list" ["ls"] (kind :: pagingParameters) [] fun found =>
        let filter := ((found.text? "type").bind DeviceFilter.ofName?).getD .all
        command (.list filter (pagingOf found)),
      getCommand fun id => command (.get id),
      macCommand "inspect" fun mac => command (.inspect mac),
      macCommand "ip" fun mac => command (.address mac)]

def accessPointGroup : Arguments.Command Console.Command :=
  let command := fun c => Console.Command.controller (.accessPoints c)
  .group "ap" ["uap"]
    [.leaf "locate" [] [flag "off"] [macPlace] fun found =>
        command (.locate (found.text "mac") (found.has "off")),
      macCommand "locating" fun mac => command (.locating mac),
      macCommand "restart" fun mac => command (.restart mac),
      macCommand "disable" fun mac => command (.disable mac),
      macCommand "enable" fun mac => command (.enable mac),
      .leaf "rename" [] [] [macPlace, { name := "name", kind := .text }] fun found =>
        command (.rename (found.text "mac") (found.text "name"))]

def stationGroup : Arguments.Command Console.Command :=
  let command := fun c => Console.Command.controller (.stations c)
  .group "clients" ["cl", "client"]
    [macCommand "block" fun mac => command (.block mac),
      macCommand "unblock" fun mac => command (.unblock mac),
      .leaf "authorize-guest" []
        [option "minutes" .word32, option "up" .word32, option "down" .word32, option "mb" .word,
          option "ap-mac" .text]
        [macPlace] fun found =>
          command (.authorizeGuest (found.text "mac")
            { minutes := found.integer? "minutes"
              up := found.integer? "up"
              down := found.integer? "down"
              bytes := found.integer? "mb"
              accessPoint := found.text? "ap-mac" }),
      macCommand "unauthorize-guest" fun mac => command (.unauthorizeGuest mac)]

/-- The methods of raw requests by their names. -/
def rawMethods : List (String × Method) :=
  [("get", .get), ("post", .post), ("put", .put), ("delete", .delete)]

/-- The command for raw requests. -/
def rawLeaf : Arguments.Command Console.Command :=
  .leaf "api" [] [option "data" .text (some 'd')]
    [{ name := "method", kind := .anyCaseChoice (rawMethods.map (·.1)) },
      { name := "path", kind := .text }] fun found =>
    let method := ((rawMethods.find? (·.1 == found.text "method")).map (·.2)).getD .get
    .controller (.raw { method, path := found.text "path", data := found.text? "data" })

def storeGroup : Arguments.Command Console.Command :=
  .group "db" []
    [.leaf "list" ["ls"] [] [] fun _ => .store .list,
      .leaf "show" [] [] [{ name := "collection", kind := .text }] fun found =>
        .store (.show (found.text "collection")),
      .leaf "clean" [] []
        [{ name := "target", kind := .choice ("all" :: Resource.every.map Resource.name)
           required := false }] fun found =>
        .store (.clean ((found.text? "target").bind Resource.ofName?))]

def configGroup : Arguments.Command Console.Command :=
  .group "config" []
    [.leaf "init" [] [] [] fun _ => .config .init,
      .leaf "show" [] [] [] fun _ => .config .show,
      .leaf "set-password" [] [] [] fun _ => .config .setPassword]

/-- The shells that completions can be made for. -/
def shells : List String := ["bash", "elvish", "fish", "powershell", "zsh"]

/-- The command for completions. -/
def completionsLeaf : Arguments.Command Console.Command :=
  .leaf "completions" [] [] [{ name := "shell", kind := .choice shells }] fun found =>
    .completions (found.text "shell")

/-- The program. -/
def program : Program Console.Command :=
  { release := "0.1.0"
    shared := sharedParameters
    command := .group "unified" []
      [recordGroup "alarms" ["alarm"] .alarms, recordGroup "events" ["event"] .events,
        deviceGroup, accessPointGroup, stationGroup, recordGroup "users" ["user"] .users,
        recordGroup "sites" ["site"] .sites, rawLeaf, storeGroup, configGroup,
        completionsLeaf] }

/-- The invocation that a command line in an environment is. -/
def Invocation.read (environment : Environment) (arguments : List String) :
    Except Stop Invocation := do
  let (found, command) ← Arguments.read program environment arguments
  return ⟨Options.ofMatches found, command⟩

end NetConsole.Console
