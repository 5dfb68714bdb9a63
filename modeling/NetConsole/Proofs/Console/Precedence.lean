import NetConsole.Console.Connection
import NetConsole.Proofs.Config.Reloading

/-!
# What comes first

Each part of a connection is taken from the first place that has it: the options, the profile in
use, the environment, what holds for all profiles. So a profile counts only where no option covers
it, and the profile in use is the one configured under its name wherever there is one. A password
may also be in the keyring, before the profile's, and is asked for where there is none.
-/

set_option autoImplicit false

namespace NetConsole.Console

open Config Json Stepwise

variable {options : Options} {config other : Config} {environment : Environment}
  {secrets : Secrets} {home : String} {profile second : Profile}

/-! ## The profile in use -/

/-- The profile configured under the name in use; where there is none, a bare profile for the
controller that is given as an option. -/
inductive InUse (options : Options) (config : Config) : Profile → Prop where
  | configured {profile : Profile} :
      config.profile? (profileName options config) = some profile → InUse options config profile
  | bare {controller : String} : config.profile? (profileName options config) = none →
      options.controller = some controller → InUse options config { controller }

theorem profileInUse_ok_iff : profileInUse options config home = .ok profile ↔
    InUse options config profile := by
  unfold profileInUse
  dsimp only
  constructor
  · intro used
    cases found : config.profile? (profileName options config) with
    | some configured =>
        rw [found] at used
        cases used
        exact .configured found
    | none =>
        cases given : options.controller with
        | some controller =>
            rw [found, given] at used
            cases used
            exact .bare found given
        | none =>
            rw [found, given] at used
            cases used
  · intro inUse
    cases inUse with
    | configured found => simp only [found]
    | bare missing given => simp only [missing, given]

/-- There is no profile in use if none is configured under its name and no controller is given. -/
theorem profileInUse_error_iff {failure : Failure} :
    profileInUse options config home = .error failure ↔
      config.profile? (profileName options config) = none ∧ options.controller = none ∧
        failure = if options.profile.isSome then
          .profileNotFound (profileName options config) config.profileNames
        else .noController (filePath home) := by
  unfold profileInUse
  dsimp only
  cases found : config.profile? (profileName options config) with
  | some configured => simp
  | none =>
      cases given : options.controller with
      | some controller => simp
      | none =>
          constructor
          · intro failed
            cases failed
            exact ⟨rfl, rfl, rfl⟩
          · rintro ⟨-, -, rfl⟩
            rfl

/-! ## Layers -/

/-- The user to log in as: the option, the profile's, or the one in the environment. -/
def userLayers (options : Options) (environment : Environment) (profile : Profile) :
    Option String :=
  options.username.or (profile.username.or (environment.find? "UNIFIED_USERNAME"))

/-- The password to log in with, unless it is asked for: the option, the one in the environment, the
one in the keyring, or the profile's. -/
def passwordLayers (options : Options) (environment : Environment) (keyring : Keyring)
    (name : String) (profile : Profile) : Option String :=
  options.password.or ((environment.find? "UNIFIED_PASSWORD").or
    ((keyring (keyringEntry name)).or profile.password))

theorem userInUse_eq (name : String) : userInUse options environment name profile =
    (userLayers options environment profile).elim (.error (.noCredentials name)) .ok := by
  unfold userInUse userLayers Profile.user
  cases options.username with
  | some username => rfl
  | none =>
      rw [Option.none_or]
      cases profile.username.or (environment.find? "UNIFIED_USERNAME") <;> rfl

/-- The passwords that a user may log in with: the one that the layers hold, or the one that is
entered where they hold none. -/
inductive Unlocks (options : Options) (environment : Environment) (secrets : Secrets)
    (name username : String) (profile : Profile) : String → Prop where
  | held {password : String} :
      passwordLayers options environment secrets.keyring name profile = some password →
      Unlocks options environment secrets name username profile password
  | entered {prompt : String → Except String String} {password : String} :
      passwordLayers options environment secrets.keyring name profile = none →
      secrets.prompt = some prompt →
      prompt ("Password for " ++ username ++ ": ") = .ok password → password ≠ "" →
      Unlocks options environment secrets name username profile password

/-- Why there is no password: nobody can be asked for one, nothing is entered, or what is entered
cannot be read. -/
inductive Locked (options : Options) (environment : Environment) (secrets : Secrets)
    (name username : String) (profile : Profile) : Failure → Prop where
  | unasked : passwordLayers options environment secrets.keyring name profile = none →
      secrets.prompt = none →
      Locked options environment secrets name username profile (.noCredentials name)
  | empty {prompt : String → Except String String} :
      passwordLayers options environment secrets.keyring name profile = none →
      secrets.prompt = some prompt → prompt ("Password for " ++ username ++ ": ") = .ok "" →
      Locked options environment secrets name username profile (.noCredentials name)
  | unreadable {prompt : String → Except String String} {reason : String} :
      passwordLayers options environment secrets.keyring name profile = none →
      secrets.prompt = some prompt →
      prompt ("Password for " ++ username ++ ": ") = .error reason →
      Locked options environment secrets name username profile (.io reason)

theorem passwordInUse_eq (name username : String) :
    passwordInUse options environment secrets name username profile =
      match passwordLayers options environment secrets.keyring name profile with
      | some password => .ok password
      | none => secrets.asked name username := rfl

theorem passwordInUse_ok_iff {name username password : String} :
    passwordInUse options environment secrets name username profile = .ok password ↔
      Unlocks options environment secrets name username profile password := by
  rw [passwordInUse_eq]
  constructor
  · intro given
    cases layers : passwordLayers options environment secrets.keyring name profile with
    | some held =>
        rw [layers] at given
        cases given
        exact .held layers
    | none =>
        rw [layers] at given
        dsimp only [Secrets.asked] at given
        split at given
        next => cases given
        next prompt there =>
          split at given
          next => cases given
          next entered answered =>
            split at given
            next => cases given
            next something =>
              cases given
              exact .entered layers there answered something
  · intro unlocks
    cases unlocks with
    | held layers => rw [layers]
    | entered layers there answered something =>
        rw [layers]
        simp only [Secrets.asked, there, answered, if_neg something]

theorem passwordInUse_error_iff {name username : String} {failure : Failure} :
    passwordInUse options environment secrets name username profile = .error failure ↔
      Locked options environment secrets name username profile failure := by
  rw [passwordInUse_eq]
  constructor
  · intro failed
    cases layers : passwordLayers options environment secrets.keyring name profile with
    | some held =>
        rw [layers] at failed
        cases failed
    | none =>
        rw [layers] at failed
        dsimp only [Secrets.asked] at failed
        split at failed
        next nobody =>
          cases failed
          exact .unasked layers nobody
        next prompt there =>
          split at failed
          next reason unreadable =>
            cases failed
            exact .unreadable layers there unreadable
          next entered answered =>
            split at failed
            next nothing =>
              cases failed
              exact .empty layers there (nothing ▸ answered)
            next => cases failed
  · intro locked
    cases locked with
    | unasked layers nobody =>
        rw [layers]
        simp only [Secrets.asked, nobody]
    | empty layers there answered =>
        rw [layers]
        simp only [Secrets.asked, there, answered, if_true]
    | unreadable layers there unreadable =>
        rw [layers]
        simp only [Secrets.asked, there, unreadable]

/-- Whether certificates go unchecked. -/
def Unchecked (options : Options) (profile : Profile) : Prop :=
  options.insecure = true ∨ profile.insecure = some true

/-- A connection each part of which comes from the first place that has it. -/
structure Connection.Layered (wanted : Connection) (options : Options) (config : Config)
    (environment : Environment) (secrets : Secrets) (profile : Profile) : Prop where
  name : wanted.profile = profileName options config
  controller : controllerUrl (options.controller.getD profile.controller) = .ok wanted.controller
  site : wanted.site = options.site.getD profile.site
  username : userLayers options environment profile = some wanted.username
  password : Unlocks options environment secrets (profileName options config) wanted.username
    profile wanted.password
  seconds : wanted.transport.seconds =
    options.timeout.getD (profile.timeout.getD config.defaults.timeout)
  anyone : wanted.transport.trust = .anyone ↔ Unchecked options profile
  authority : ∀ path, wanted.transport.trust = .authority path ↔
    ¬ Unchecked options profile ∧ profile.caCert = some path
  system : wanted.transport.trust = .system ↔
    ¬ Unchecked options profile ∧ profile.caCert = none

/-- Why there is no connection. The profile is looked for first, then its controller is read, and
only then is it asked who logs in. -/
inductive Unconnected (options : Options) (config : Config) (environment : Environment)
    (secrets : Secrets) (home : String) : Failure → Prop where
  | unknown {name : String} : options.profile = some name → config.profile? name = none →
      options.controller = none →
      Unconnected options config environment secrets home
        (.profileNotFound name config.profileNames)
  | unconfigured : options.profile = none →
      config.profile? (profileName options config) = none → options.controller = none →
      Unconnected options config environment secrets home (.noController (filePath home))
  | misaddressed {profile : Profile} {cause : Error} : InUse options config profile →
      controllerUrl (options.controller.getD profile.controller) = .error cause →
      Unconnected options config environment secrets home (.config cause)
  | unnamed {profile : Profile} {url : Url} : InUse options config profile →
      controllerUrl (options.controller.getD profile.controller) = .ok url →
      userLayers options environment profile = none →
      Unconnected options config environment secrets home
        (.noCredentials (profileName options config))
  | locked {profile : Profile} {url : Url} {username : String} {failure : Failure} :
      InUse options config profile →
      controllerUrl (options.controller.getD profile.controller) = .ok url →
      userLayers options environment profile = some username →
      Locked options environment secrets (profileName options config) username profile failure →
      Unconnected options config environment secrets home failure

theorem layered_trust (options : Options) (config : Config) (profile : Profile) :
    let trust := (transportInUse options (profile.transport config.defaults)).trust
    (trust = .anyone ↔ Unchecked options profile) ∧
      (∀ path, trust = .authority path ↔
        ¬ Unchecked options profile ∧ profile.caCert = some path) ∧
      (trust = .system ↔ ¬ Unchecked options profile ∧ profile.caCert = none) := by
  intro trust
  have whole : trust = if options.insecure = true then .anyone
      else (profile.transport config.defaults).trust := rfl
  rw [whole]
  by_cases insecure : options.insecure = true
  · simp [Unchecked, insecure]
  · by_cases own : profile.insecure = some true
    · simp [Unchecked, Profile.transport, insecure, own]
    · cases authority : profile.caCert <;>
        simp [Unchecked, Profile.transport, insecure, own, authority]

/-- The connection that a profile in use, its controller and somebody to log in lead to. -/
def connectionWith (options : Options) (config : Config) (profile : Profile) (controller : Url)
    (username password : String) : Connection where
  profile := profileName options config
  controller := controller
  site := options.site.getD profile.site
  username := username
  password := password
  transport := transportInUse options (profile.transport config.defaults)

theorem connection_of_unreadable {cause : Error} (inUse : InUse options config profile)
    (unreadable : controllerUrl (options.controller.getD profile.controller) = .error cause) :
    connection options config environment secrets home = .error (.config cause) := by
  simp only [connection, profileInUse_ok_iff.mpr inUse, bind, Except.bind, unreadable,
    Except.mapError]

theorem connection_of_readable {url : Url} (inUse : InUse options config profile)
    (readable : controllerUrl (options.controller.getD profile.controller) = .ok url) :
    connection options config environment secrets home =
      match userLayers options environment profile with
      | none => .error (.noCredentials (profileName options config))
      | some username =>
          (passwordInUse options environment secrets (profileName options config) username
            profile).map (connectionWith options config profile url username) := by
  simp only [connection, profileInUse_ok_iff.mpr inUse, bind, Except.bind, readable,
    Except.mapError, userInUse_eq]
  cases userLayers options environment profile <;> rfl

theorem connection_of_unused {failure : Failure}
    (unused : profileInUse options config home = .error failure) :
    connection options config environment secrets home = .error failure := by
  simp only [connection, unused, bind, Except.bind]

theorem layered_connectionWith {url : Url} {username password : String}
    (readable : controllerUrl (options.controller.getD profile.controller) = .ok url)
    (user : userLayers options environment profile = some username)
    (secret : Unlocks options environment secrets (profileName options config) username profile
      password) :
    (connectionWith options config profile url username password).Layered options config
      environment secrets profile := by
  obtain ⟨anyone, authority, system⟩ := layered_trust options config profile
  exact ⟨rfl, readable, rfl, user, secret, rfl, anyone, authority, system⟩

theorem transport_eq {one two : Transport} (trust : one.trust = two.trust)
    (seconds : one.seconds = two.seconds) : one = two := by
  cases one
  cases two
  cases trust
  cases seconds
  rfl

/-- The layers of a connection determine it. -/
theorem Connection.Layered.unique {one two : Connection}
    (first : one.Layered options config environment secrets profile)
    (second : two.Layered options config environment secrets profile) : one = two := by
  have controller : one.controller = two.controller :=
    Except.ok.inj (first.controller.symm.trans second.controller)
  have username : one.username = two.username :=
    Option.some.inj (first.username.symm.trans second.username)
  have password : one.password = two.password := by
    have asked := passwordInUse_ok_iff.mpr first.password
    rw [username] at asked
    exact Except.ok.inj (asked.symm.trans (passwordInUse_ok_iff.mpr second.password))
  have trust : one.transport.trust = two.transport.trust := by
    cases told : one.transport.trust with
    | anyone => exact (second.anyone.mpr (first.anyone.mp told)).symm
    | authority path => exact ((second.authority path).mpr ((first.authority path).mp told)).symm
    | system => exact (second.system.mpr (first.system.mp told)).symm
  have transport : one.transport = two.transport :=
    transport_eq trust (first.seconds.trans second.seconds.symm)
  have name := first.name.trans second.name.symm
  have site := first.site.trans second.site.symm
  cases one
  cases two
  simp only [Connection.mk.injEq]
  exact ⟨name, controller, site, username, password, transport⟩

/-- There is a connection exactly if there is a profile in use whose layers lead to one. -/
theorem connection_ok_iff {wanted : Connection} :
    connection options config environment secrets home = .ok wanted ↔
      ∃ profile, InUse options config profile ∧
        wanted.Layered options config environment secrets profile := by
  constructor
  · intro connected
    cases used : profileInUse options config home with
    | error failure =>
        rw [connection_of_unused used] at connected
        cases connected
    | ok profile =>
        have inUse := profileInUse_ok_iff.mp used
        refine ⟨profile, inUse, ?_⟩
        cases read : controllerUrl (options.controller.getD profile.controller) with
        | error cause =>
            rw [connection_of_unreadable inUse read] at connected
            cases connected
        | ok url =>
            rw [connection_of_readable inUse read] at connected
            split at connected
            next => cases connected
            next username user =>
              obtain ⟨password, secret, rfl⟩ := map_eq_ok connected
              exact layered_connectionWith read user (passwordInUse_ok_iff.mp secret)
  · rintro ⟨profile, inUse, layered⟩
    rw [connection_of_readable inUse layered.controller, layered.username]
    dsimp only
    rw [passwordInUse_ok_iff.mpr layered.password]
    exact congrArg Except.ok
      ((layered_connectionWith layered.controller layered.username layered.password).unique
        layered)

theorem connection_error_iff {failure : Failure} :
    connection options config environment secrets home = .error failure ↔
      Unconnected options config environment secrets home failure := by
  constructor
  · intro unconnected
    cases used : profileInUse options config home with
    | error cause =>
        rw [connection_of_unused used] at unconnected
        cases unconnected
        obtain ⟨missing, notGiven, rfl⟩ := profileInUse_error_iff.mp used
        cases asked : options.profile with
        | none => exact .unconfigured asked missing notGiven
        | some name =>
            have named : profileName options config = name := by simp [profileName, asked]
            simp only [named] at missing ⊢
            exact .unknown asked missing notGiven
    | ok profile =>
        have inUse := profileInUse_ok_iff.mp used
        cases read : controllerUrl (options.controller.getD profile.controller) with
        | error cause =>
            rw [connection_of_unreadable inUse read] at unconnected
            cases unconnected
            exact .misaddressed inUse read
        | ok url =>
            rw [connection_of_readable inUse read] at unconnected
            split at unconnected
            next nobody =>
              cases unconnected
              exact .unnamed inUse read nobody
            next username user =>
              have locked := map_eq_error unconnected
              exact .locked inUse read user (passwordInUse_error_iff.mp locked)
  · intro unconnected
    cases unconnected with
    | @unknown name asked missing notGiven =>
        have named : profileName options config = name := by simp [profileName, asked]
        refine connection_of_unused (profileInUse_error_iff.mpr ⟨?_, notGiven, ?_⟩)
        · rw [named]
          exact missing
        · rw [named, asked]
          rfl
    | unconfigured notAsked missing notGiven =>
        refine connection_of_unused (profileInUse_error_iff.mpr ⟨missing, notGiven, ?_⟩)
        rw [notAsked]
        rfl
    | misaddressed inUse read => exact connection_of_unreadable inUse read
    | unnamed inUse read nobody => rw [connection_of_readable inUse read, nobody]
    | locked inUse read user locked =>
        rw [connection_of_readable inUse read, user]
        dsimp only
        rw [passwordInUse_error_iff.mpr locked]
        rfl

/-! ## What does not count -/

/-- Profiles that agree in all that no option covers. Where the store of a profile is has no part in
a connection. -/
structure ProfilesAgree (options : Options) (one two : Profile) : Prop where
  controller : options.controller = none → one.controller = two.controller
  site : options.site = none → one.site = two.site
  username : options.username = none → one.username = two.username
  password : options.password = none → one.password = two.password
  insecure : options.insecure = false → one.insecure = two.insecure
  caCert : options.insecure = false → one.caCert = two.caCert
  timeout : options.timeout = none → one.timeout = two.timeout

/-- Configurations that take the same profile to be in use, or miss the same one, and agree in it
under options. -/
structure ConfigsAgree (options : Options) (one two : Config) : Prop where
  name : profileName options one = profileName options two
  names : one.profileNames = two.profileNames
  timeout : options.timeout = none → one.defaults.timeout = two.defaults.timeout
  profile : Option.Rel (ProfilesAgree options) (one.profile? (profileName options one))
    (two.profile? (profileName options two))

theorem getD_eq_getD {α : Type} {given : Option α} {one two : α}
    (same : given = none → one = two) : given.getD one = given.getD two := by
  cases given with
  | none => exact same rfl
  | some value => rfl

theorem or_eq_or {α : Type} {given one two : Option α} (same : given = none → one = two) :
    given.or one = given.or two := by
  cases given with
  | none => exact same rfl
  | some value => rfl

section

variable (alike : ProfilesAgree options profile second)

include alike

theorem ProfilesAgree.userLayers_eq :
    userLayers options environment profile = userLayers options environment second :=
  or_eq_or fun missing => by rw [alike.username missing]

theorem ProfilesAgree.passwordLayers_eq (keyring : Keyring) (name : String) :
    passwordLayers options environment keyring name profile =
      passwordLayers options environment keyring name second :=
  or_eq_or fun missing => by rw [alike.password missing]

theorem ProfilesAgree.passwordInUse_eq (name username : String) :
    passwordInUse options environment secrets name username profile =
      passwordInUse options environment secrets name username second := by
  rw [Console.passwordInUse_eq, Console.passwordInUse_eq, alike.passwordLayers_eq]

theorem ProfilesAgree.controller_eq :
    options.controller.getD profile.controller = options.controller.getD second.controller :=
  getD_eq_getD alike.controller

theorem ProfilesAgree.unchecked_iff : Unchecked options profile ↔ Unchecked options second := by
  unfold Unchecked
  cases checked : options.insecure with
  | false => rw [alike.insecure checked]
  | true => simp

theorem ProfilesAgree.caCert_of_checked (checked : ¬ Unchecked options profile) :
    profile.caCert = second.caCert := by
  refine alike.caCert (Bool.eq_false_iff.mpr fun insecure => checked (.inl insecure))

theorem Connection.Layered.of_alike {wanted : Connection}
    (layered : wanted.Layered options config environment secrets profile)
    (same : ConfigsAgree options config other) :
    wanted.Layered options other environment secrets second where
  name := layered.name.trans same.name
  controller := alike.controller_eq ▸ layered.controller
  site := layered.site.trans (getD_eq_getD alike.site)
  username := alike.userLayers_eq ▸ layered.username
  password := by
    rw [← passwordInUse_ok_iff, ← alike.passwordInUse_eq, ← same.name]
    exact passwordInUse_ok_iff.mpr layered.password
  seconds := by
    refine layered.seconds.trans (getD_eq_getD fun missing => ?_)
    rw [alike.timeout missing, same.timeout missing]
  anyone := layered.anyone.trans alike.unchecked_iff
  authority := by
    intro path
    rw [layered.authority, ← alike.unchecked_iff]
    exact and_congr_right fun checked => by rw [alike.caCert_of_checked checked]
  system := by
    rw [layered.system, ← alike.unchecked_iff]
    exact and_congr_right fun checked => by rw [alike.caCert_of_checked checked]

end

theorem ProfilesAgree.refl (options : Options) (profile : Profile) :
    ProfilesAgree options profile profile :=
  ⟨fun _ => rfl, fun _ => rfl, fun _ => rfl, fun _ => rfl, fun _ => rfl, fun _ => rfl,
    fun _ => rfl⟩

section

variable (alike : ConfigsAgree options config other)

include alike

theorem ConfigsAgree.missing (missing : config.profile? (profileName options config) = none) :
    other.profile? (profileName options other) = none := by
  have both := alike.profile
  rw [missing] at both
  cases found : other.profile? (profileName options other) with
  | none => rfl
  | some second =>
      rw [found] at both
      cases both

theorem ConfigsAgree.exists_inUse (inUse : InUse options config profile) :
    ∃ second, InUse options other second ∧ ProfilesAgree options profile second := by
  cases inUse with
  | configured found =>
      have both := alike.profile
      rw [found] at both
      cases also : other.profile? (profileName options other) with
      | none =>
          rw [also] at both
          cases both
      | some second =>
          rw [also] at both
          cases both with
          | some same => exact ⟨second, .configured also, same⟩
  | bare missing given => exact ⟨_, .bare (alike.missing missing) given, .refl _ _⟩

/-- What the options cover of the profile in use, and all other profiles, make no difference. -/
theorem ConfigsAgree.connection_eq :
    connection options other environment secrets home =
      connection options config environment secrets home := by
  cases connected : connection options config environment secrets home with
  | ok wanted =>
      obtain ⟨profile, inUse, layered⟩ := connection_ok_iff.mp connected
      obtain ⟨second, alsoInUse, same⟩ := alike.exists_inUse inUse
      exact connection_ok_iff.mpr ⟨second, alsoInUse, layered.of_alike same alike⟩
  | error failure =>
      apply connection_error_iff.mpr
      cases connection_error_iff.mp connected with
      | @unknown name asked missing notGiven =>
          have named (config : Config) : profileName options config = name := by
            simp [profileName, asked]
          have alsoMissing := alike.missing ((named config).symm ▸ missing)
          rw [named] at alsoMissing
          rw [alike.names]
          exact .unknown asked alsoMissing notGiven
      | unconfigured notAsked missing notGiven =>
          exact .unconfigured notAsked (alike.missing missing) notGiven
      | misaddressed inUse read =>
          obtain ⟨second, alsoInUse, same⟩ := alike.exists_inUse inUse
          exact .misaddressed alsoInUse (same.controller_eq ▸ read)
      | unnamed inUse read nobody =>
          obtain ⟨second, alsoInUse, same⟩ := alike.exists_inUse inUse
          rw [alike.name]
          exact .unnamed alsoInUse (same.controller_eq ▸ read) (same.userLayers_eq ▸ nobody)
      | @locked _ _ username _ inUse read user locked =>
          obtain ⟨second, alsoInUse, same⟩ := alike.exists_inUse inUse
          refine .locked alsoInUse (same.controller_eq ▸ read) (same.userLayers_eq ▸ user) ?_
          rw [← passwordInUse_error_iff, ← same.passwordInUse_eq, ← alike.name]
          exact passwordInUse_error_iff.mpr locked

end

/-! ## Profiles in files -/

/-- A profile whose settings do not name a site is for the default one. -/
theorem site_of_unset {path : List String} {table : Table} {value : Json}
    (ascending : Ascending table) (unset : table.find? "site" = none)
    (read : readSetting Profile.shape path (.table table) = .ok value) :
    (Profile.ofJson value).site = defaultSite := by
  have distinct : (Profile.fields.map Field.key).Nodup := by decide
  obtain ⟨members, rfl, each⟩ := (readSetting_record distinct ascending).mp read
  have own : Json.Field.mk "site" .text (.filled (.string defaultSite)) ∈ Profile.fields := by
    simp [Profile.fields]
  obtain ⟨member, there, extracts⟩ := exists_of_mem_forall₂ each.flip own
  have filled : member = ("site", .string defaultSite) := by
    cases extracts with
    | found named =>
        rw [Field.key, unset] at named
        cases named
    | absent _ meaning =>
        cases meaning
        rfl
  have keys : members.map (·.1) = Profile.fields.map Field.key := by
    rw [← List.forall₂_eq_eq_eq, List.forall₂_map_left_iff, List.forall₂_map_right_iff]
    exact each.flip.imp fun _ _ extracts => extracts.named
  have found : lookup "site" members = some (.string defaultSite) :=
    lookup_of_mem (keys ▸ distinct) (filled ▸ there)
  simp [Profile.ofJson, textAt, Json.get?, found]

/-! ## Connections -/

/-- There is no password for a profile but among the options, in the environment and in the
configuration: none in the keyring, and nobody to ask for one. -/
structure Secrets.NoneFor (secrets : Secrets) (name : String) : Prop where
  keyring : secrets.keyring (keyringEntry name) = none
  prompt : secrets.prompt = none

theorem Secrets.NoneFor.passwordLayers_eq {name : String} (none : secrets.NoneFor name) :
    passwordLayers options environment secrets.keyring name profile =
      options.password.or ((environment.find? "UNIFIED_PASSWORD").or profile.password) := by
  rw [passwordLayers, none.keyring, Option.none_or]

theorem Secrets.NoneFor.unlocks_iff {name username password : String}
    (none : secrets.NoneFor name) :
    Unlocks options environment secrets name username profile password ↔
      options.password.or ((environment.find? "UNIFIED_PASSWORD").or profile.password) =
        some password := by
  rw [← none.passwordLayers_eq]
  constructor
  · intro unlocks
    cases unlocks with
    | held layers => exact layers
    | entered _ there => cases none.prompt.symm.trans there
  · exact .held

theorem Secrets.NoneFor.locked_iff {name username : String} {failure : Failure}
    (none : secrets.NoneFor name) :
    Locked options environment secrets name username profile failure ↔
      options.password.or ((environment.find? "UNIFIED_PASSWORD").or profile.password) = .none ∧
        failure = .noCredentials name := by
  rw [← none.passwordLayers_eq]
  constructor
  · intro locked
    cases locked with
    | unasked layers => exact ⟨layers, rfl⟩
    | empty _ there => cases none.prompt.symm.trans there
    | unreadable _ there => cases none.prompt.symm.trans there
  · rintro ⟨layers, rfl⟩
    exact .unasked layers none.prompt

/-- Nobody can log in where the profile in use and its controller are found, but no user or no
password. -/
theorem Secrets.NoneFor.noCredentials_iff
    (none : secrets.NoneFor (profileName options config)) :
    connection options config environment secrets home =
        .error (.noCredentials (profileName options config)) ↔
      ∃ profile url, InUse options config profile ∧
        controllerUrl (options.controller.getD profile.controller) = .ok url ∧
        (userLayers options environment profile = .none ∨
          options.password.or ((environment.find? "UNIFIED_PASSWORD").or profile.password) =
            .none) := by
  rw [connection_error_iff]
  constructor
  · intro unconnected
    cases unconnected with
    | unnamed inUse read nobody => exact ⟨_, _, inUse, read, .inl nobody⟩
    | locked inUse read user locked =>
        exact ⟨_, _, inUse, read, .inr (none.locked_iff.mp locked).1⟩
  · rintro ⟨profile, url, inUse, read, missing⟩
    cases user : userLayers options environment profile with
    | none => exact .unnamed inUse read user
    | some username =>
        have secret := missing.resolve_left (by simp [user])
        exact .locked inUse read user (none.locked_iff.mpr ⟨secret, rfl⟩)

/-- A configuration with one profile, which is not the default one. -/
def labWith (profile : Profile) : Config := ⟨some "default", {}, [("lab", profile)]⟩

/-- Options that ask for the profile and cover all of it but for who logs in. -/
def labOptions : Options :=
  { profile := some "lab", controller := some "http://[::1]", site := some "s", insecure := true
    timeout := some 5 }

end NetConsole.Console
