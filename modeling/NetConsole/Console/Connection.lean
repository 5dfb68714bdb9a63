import NetConsole.Client.Basic
import NetConsole.Config.Loading
import NetConsole.Console.Command
import NetConsole.Console.Failure

/-!
# What options and configuration make together

An option counts before the profile in use, and the profile before the defaults.
-/

set_option autoImplicit false

namespace NetConsole.Console

/-! ## The profile in use -/

def profileName (options : Options) (config : Config) : String :=
  (options.profile.or config.defaultProfile).getD Config.defaultProfileName

/-- The profile in use: the one configured under its name, or a bare one for a controller that is
given as an option. A profile that is asked for by name must be configured, unless a controller is
given as well. -/
def profileInUse (options : Options) (config : Config) (home : String) :
    Except Failure Config.Profile :=
  let name := profileName options config
  match config.profile? name, options.controller with
  | some profile, _ => .ok profile
  | none, some controller => .ok { controller }
  | none, none =>
      .error (if options.profile.isSome then .profileNotFound name config.profileNames
        else .noController (Config.filePath home))

def storeDirectory (options : Options) (config : Config) (home : String) : String :=
  let name := profileName options config
  match options.storePath, config.profile? name with
  | some path, _ => path
  | none, some profile => profile.storeDirectory home name
  | none, none => Config.defaultStorePath home name

def keepsRecords (options : Options) (config : Config) : Bool :=
  options.useStore || config.defaults.useStore

/-! ## How output looks -/

/-- How output looks, and whether there is any. -/
structure Presentation where
  format : Format
  color : Bool
  quiet : Bool
  deriving DecidableEq, Repr, Inhabited

/-- How output looks. A name among the defaults that is not one of a format or mode counts as none.
Output never goes to a terminal, so there are colours only if they are always wanted. -/
def presentation (options : Options) (config : Config) : Presentation :=
  let format := options.output.or (Format.ofName? config.defaults.output)
  let color := options.color.or (ColorMode.ofName? config.defaults.color)
  { format := format.getD .table
    color := color = some .always
    quiet := options.quiet }

/-! ## Connections -/

/-- All that is needed to log in at a controller. -/
structure Connection where
  profile : String
  controller : Url
  site : String
  username : String
  password : String
  transport : Transport
  deriving DecidableEq, Repr

/-- How connections are made: as the profile says, but with any certificate if that is an option,
and with the time that is given as one. -/
def transportInUse (options : Options) (transport : Transport) : Transport :=
  { trust := if options.insecure then .anyone else transport.trust
    seconds := options.timeout.getD transport.seconds }

def userInUse (options : Options) (environment : Environment) (name : String)
    (profile : Config.Profile) : Except Failure String :=
  match options.username with
  | some username => .ok username
  | none => (profile.user environment name).mapError fun _ => .noCredentials name

/-- Where passwords are asked for besides the options, the environment and the configuration: the
keyring, and the user, who is shown a prompt if there is a terminal. -/
structure Secrets where
  keyring : Config.Keyring := fun _ => none
  /-- what is entered at a prompt, or why it cannot be read -/
  prompt : Option (String → Except String String) := none

/-- The password that the user is asked for. An empty one counts as none. -/
def Secrets.asked (secrets : Secrets) (name username : String) : Except Failure String :=
  match secrets.prompt with
  | none => .error (.noCredentials name)
  | some prompt =>
      match prompt ("Password for " ++ username ++ ": ") with
      | .error reason => .error (.io reason)
      | .ok entered => if entered = "" then .error (.noCredentials name) else .ok entered

/-- The password to log in with. The user is asked for one that is found nowhere else. -/
def passwordInUse (options : Options) (environment : Environment) (secrets : Secrets)
    (name username : String) (profile : Config.Profile) : Except Failure String :=
  match options.password.or (profile.secret? name secrets.keyring environment) with
  | some password => .ok password
  | none => secrets.asked name username

/-- The connection that is wanted. The first part of it that is missing or makes no sense is
reported: the profile, the controller, the user, the password. -/
def connection (options : Options) (config : Config) (environment : Environment)
    (secrets : Secrets) (home : String) : Except Failure Connection := do
  let name := profileName options config
  let profile ← profileInUse options config home
  let controller ←
    (Config.controllerUrl (options.controller.getD profile.controller)).mapError Failure.config
  let username ← userInUse options environment name profile
  let password ← passwordInUse options environment secrets name username profile
  return {
    profile := name
    controller
    site := options.site.getD profile.site
    username
    password
    transport := transportInUse options (profile.transport config.defaults) }

/-- A client for a connection, before it logs in. -/
def Connection.client (wanted : Connection) (files : Files) (wire : Wire) :
    Except ClientError Client := do
  wanted.transport.check files
  let session ← Session.open? wanted.controller wanted.site
  return Client.fresh session wire

end NetConsole.Console
