import NetConsole.Proofs.Console.Masking
import NetConsole.Proofs.Stepwise

/-!
# Where a password goes

What options, environment and configuration make together when they hold one password or another in
the same places: the same failure, or connections that differ in the password at most.
-/

set_option autoImplicit false

namespace NetConsole

namespace Config

/-! ## Profiles -/

theorem Profile.SameButPassword.refl (profile : Profile) : profile.SameButPassword profile :=
  ⟨rfl, rfl⟩

theorem Profile.SameButPassword.exists_eq {one two : Profile} (same : one.SameButPassword two) :
    ∃ password, two = { one with password } ∧ one.password.isSome = password.isSome := by
  obtain ⟨rest, password⟩ := same
  cases one
  cases two
  cases rest
  exact ⟨_, rfl, password⟩

theorem SameButPasswords.refl (config : Config) : config.SameButPasswords config :=
  ⟨rfl, rfl, List.forall₂_same.mpr fun entry _ => ⟨rfl, .refl entry.2⟩⟩

variable {one two : Config}

theorem SameButPasswords.profileNames (same : one.SameButPasswords two) :
    one.profileNames = two.profileNames := by
  unfold Config.profileNames
  rw [← List.forall₂_eq_eq_eq, List.forall₂_map_left_iff, List.forall₂_map_right_iff]
  exact same.profiles.imp fun _ _ alike => alike.1

/-- Under one name there is a profile in both configurations or in neither. -/
theorem SameButPasswords.profile? (same : one.SameButPasswords two) (name : String) :
    one.profile? name = none ∧ two.profile? name = none ∨
      ∃ first second, one.profile? name = some first ∧ two.profile? name = some second ∧
        first.SameButPassword second := by
  unfold Config.profile?
  have profiles := same.profiles
  revert profiles
  generalize one.profiles = ones
  generalize two.profiles = twos
  intro profiles
  induction profiles with
  | nil => exact .inl ⟨rfl, rfl⟩
  | cons alike _ ih =>
      rw [List.find?_cons, List.find?_cons, alike.1]
      split
      · exact .inr ⟨_, _, rfl, rfl, alike.2⟩
      · exact ih

end Config

/-- Files are checked for a transport by what they hold at the path of further certificates. -/
theorem Transport.check_eq {transport : Transport} {files other : Files}
    (read : ∀ path, transport.trust = .authority path →
      files.read? (Path.ofText path) = other.read? (Path.ofText path)) :
    transport.check files = transport.check other := by
  unfold check
  cases trusted : transport.trust with
  | system | anyone => rfl
  | authority path =>
      dsimp only
      rw [read path trusted]

namespace Console

open Config Stepwise

/-- Options that differ in the value of the password at most. -/
structure Options.SameButPassword (one two : Options) : Prop where
  rest : { one with password := none } = { two with password := none }
  password : one.password.isSome = two.password.isSome

theorem Options.SameButPassword.refl (options : Options) : options.SameButPassword options :=
  ⟨rfl, rfl⟩

theorem Options.SameButPassword.exists_eq {one two : Options} (same : one.SameButPassword two) :
    ∃ password, two = { one with password } ∧ one.password.isSome = password.isSome := by
  obtain ⟨rest, password⟩ := same
  cases one
  cases two
  cases rest
  exact ⟨_, rfl, password⟩

/-- Environments that stand in for the same user, and for a password or for none. -/
structure SameStandIns (one two : Environment) : Prop where
  username : one.find? "UNIFIED_USERNAME" = two.find? "UNIFIED_USERNAME"
  password : (one.find? "UNIFIED_PASSWORD").isSome = (two.find? "UNIFIED_PASSWORD").isSome

/-- What a run is configured with, in two runs that have one password or another in the same
places. -/
structure SamePlaces (one : Options) (first : Config) (inside : Environment) (two : Options)
    (second : Config) (other : Environment) : Prop where
  options : one.SameButPassword two
  config : first.SameButPasswords second
  environment : SameStandIns inside other

section

variable {one two : Options} {first second : Config} {inside other : Environment}

theorem SamePlaces.profileName (same : SamePlaces one first inside two second other) :
    profileName one first = profileName two second := by
  obtain ⟨password, rfl, -⟩ := same.options.exists_eq
  rw [Console.profileName, Console.profileName, same.config.defaultProfile]

theorem SamePlaces.presentation (same : SamePlaces one first inside two second other) :
    presentation one first = presentation two second := by
  obtain ⟨password, rfl, -⟩ := same.options.exists_eq
  rw [Console.presentation, Console.presentation, same.config.defaults]

theorem SamePlaces.keepsRecords (same : SamePlaces one first inside two second other) :
    keepsRecords one first = keepsRecords two second := by
  obtain ⟨password, rfl, -⟩ := same.options.exists_eq
  rw [Console.keepsRecords, Console.keepsRecords, same.config.defaults]

theorem SamePlaces.storeDirectory (same : SamePlaces one first inside two second other)
    (home : String) : storeDirectory one first home = storeDirectory two second home := by
  have name := same.profileName
  obtain ⟨password, rfl, -⟩ := same.options.exists_eq
  unfold Console.storeDirectory
  dsimp only
  rw [← name]
  rcases same.config.profile? (Console.profileName one first) with
    ⟨none, other⟩ | ⟨profile, _, found, other, alike⟩
  · rw [none, other]
  · obtain ⟨_, rfl, -⟩ := alike.exists_eq
    rw [found, other]
    cases one.storePath <;> rfl

theorem SamePlaces.profileInUse (same : SamePlaces one first inside two second other)
    (home : String) : Matched Profile.SameButPassword (profileInUse one first home)
      (profileInUse two second home) := by
  have name := same.profileName
  obtain ⟨password, rfl, -⟩ := same.options.exists_eq
  unfold Console.profileInUse
  dsimp only
  rw [← name, same.config.profileNames]
  rcases same.config.profile? (Console.profileName one first) with
    ⟨none, other⟩ | ⟨profile, _, found, other, alike⟩
  · rw [none, other]
    cases one.controller with
    | none => exact .error _
    | some controller => exact .ok (.refl _)
  · rw [found, other]
    exact .ok alike

theorem SamePlaces.userInUse (same : SamePlaces one first inside two second other) (name : String)
    {profile own : Profile} (alike : profile.SameButPassword own) :
    userInUse one inside name profile = userInUse two other name own := by
  obtain ⟨password, rfl, -⟩ := same.options.exists_eq
  obtain ⟨_, rfl, -⟩ := alike.exists_eq
  unfold Console.userInUse Profile.user
  rw [same.environment.username]

theorem SamePlaces.passwordInUse (same : SamePlaces one first inside two second other)
    (secrets : Secrets) (name username : String) {profile own : Profile}
    (alike : profile.SameButPassword own) :
    Matched (fun _ _ => True) (passwordInUse one inside secrets name username profile)
      (passwordInUse two other secrets name username own) := by
  have present : (one.password.or (profile.secret? name secrets.keyring inside)).isSome =
      (two.password.or (own.secret? name secrets.keyring other)).isSome := by
    unfold Profile.secret?
    simp only [Option.isSome_or, same.options.password, same.environment.password, alike.password]
  unfold Console.passwordInUse
  cases held : one.password.or (profile.secret? name secrets.keyring inside) <;>
    cases also : two.password.or (own.secret? name secrets.keyring other) <;>
      rw [held, also] at present
  -- where no password is held, both runs ask the same user
  · exact .refl (fun _ => trivial) _
  · cases present
  · cases present
  · exact .ok trivial

/-- Connections that differ in the password at most. -/
def Connection.SameButPassword (one two : Connection) : Prop :=
  { one with password := "" } = { two with password := "" }

/-- With a password in the same places, the same connection is wanted but for the password, or none
for the same reason. -/
theorem SamePlaces.connection (same : SamePlaces one first inside two second other)
    (secrets : Secrets) (home : String) :
    Matched Connection.SameButPassword (connection one first inside secrets home)
      (connection two second other secrets home) := by
  have name := same.profileName
  unfold Console.connection
  refine (same.profileInUse home).bind fun profile own alike => ?_
  have user := same.userInUse (Console.profileName one first) alike
  have secret := fun username =>
    same.passwordInUse secrets (Console.profileName one first) username alike
  have defaults := same.config.defaults
  obtain ⟨password, rfl, -⟩ := same.options.exists_eq
  obtain ⟨_, rfl, -⟩ := alike.exists_eq
  dsimp only
  rw [← name, ← user, ← defaults]
  refine (Matched.refl (fun _ => rfl) _).bind fun url _ sameUrl => ?_
  refine (Matched.refl (fun _ => rfl) _).bind fun username _ sameUser => ?_
  subst sameUrl
  subst sameUser
  exact (secret username).bind fun _ _ _ => .ok rfl

end

/-! ## Clients -/

theorem Connection.SameButPassword.exists_eq {one two : Connection}
    (same : one.SameButPassword two) : ∃ password, two = { one with password } := by
  cases one
  cases two
  cases same
  exact ⟨_, rfl⟩

/-- The password has no part in the client for a connection. -/
theorem Connection.SameButPassword.client {one two : Connection} (same : one.SameButPassword two)
    {files other : Files} (checked : one.transport.check files = one.transport.check other)
    (wire : Wire) : one.client files wire = two.client other wire := by
  obtain ⟨password, rfl⟩ := same.exists_eq
  unfold Connection.client
  rw [checked]

end Console

end NetConsole
