import NetConsole.Config.Extraction
import NetConsole.Config.Variables
import NetConsole.Files.Basic
import NetConsole.Toml.Document

/-!
# Loading a configuration

A configuration has three layers: what holds where nothing is configured, the file, and the
environment, each over the one before.
-/

set_option autoImplicit false

namespace NetConsole.Config

/-! ## Places -/

def filePath (home : String) : String :=
  Path.joinTexts home [".config", "unified", "config.toml"]

/-- The path of the directory that has the stores of profiles in it. -/
def storesPath (home : String) : String :=
  Path.joinTexts home [".local", "share", "unified", "db"]

def defaultStorePath (home profile : String) : String :=
  Path.joinText (storesPath home) profile

def Profile.storeDirectory (profile : Profile) (home name : String) : String :=
  profile.storePath.getD (defaultStorePath home name)

/-! ## Layers -/

/-- The layer of a file; one that is not there is empty. -/
def ofFile (files : Files) (path : String) : Except Error Table :=
  match files.read? (Path.ofText path) with
  | none => .ok []
  | some text =>
      match Toml.read? text with
      | some table => .ok table
      | none => .error (.unreadable .unreadable [])

/-- The configuration of a file and an environment. -/
def loadFrom (files : Files) (environment : Environment) (path : String) : Except Error Config := do
  let file ← ofFile files path
  ofSettings (overTable (ofEnvironment environment) (overTable file initial.settings))

/-- The configuration of the user. Where there is no file, a configuration that cannot be read
counts as none. -/
def load (files : Files) (environment : Environment) (home : String) : Except Error Config :=
  let path := filePath home
  match loadFrom files environment path with
  | .ok config => .ok config
  | .error cause => if files.exists? (Path.ofText path) then .error cause else .ok initial

/-! ## Credentials -/

/-- The user of a profile: its own, or the one in the environment. -/
def Profile.user (profile : Profile) (environment : Environment) (name : String) :
    Except Error String :=
  match profile.username.or (environment.find? "UNIFIED_USERNAME") with
  | some username => .ok username
  | none => .error (.noCredentials name)

/-- What the keyring of the system holds under the name of an entry. A keyring that cannot be read
holds nothing. -/
abbrev Keyring := String → Option String

/-- The entry of the keyring for the password of a profile. -/
def keyringEntry (name : String) : String := name ++ "/password"

/-- The password of a profile: the one in the environment, the one in the keyring, or its own. -/
def Profile.secret? (profile : Profile) (name : String) (keyring : Keyring)
    (environment : Environment) : Option String :=
  (environment.find? "UNIFIED_PASSWORD").or ((keyring (keyringEntry name)).or profile.password)

end NetConsole.Config
