import NetConsole.Console.Run
import NetConsole.Proofs.Ascending
import Mathlib.Data.List.Forall2
import Mathlib.Data.List.Nodup

/-!
# Masked passwords

What is shown of a configuration tells whether a profile has a password and nothing else about the
password. A run may come across the profiles in any order, which has nothing to do with passwords.
In the same order, configurations that differ in the values of passwords look the same in every
format.
-/

set_option autoImplicit false

namespace NetConsole

namespace Config

/-! ## Orders of profiles -/

theorem nodup_eraseDups (names : List String) : names.eraseDups.Nodup :=
  match names with
  | [] => List.nodup_nil
  | name :: rest => by
      rw [List.eraseDups_cons, List.nodup_cons, List.mem_eraseDups]
      exact ⟨by simp, nodup_eraseDups (rest.filter fun other => !other == name)⟩
termination_by names.length
decreasing_by exact Nat.lt_succ_of_le (List.length_filter_le _ _)

theorem eraseDups_eq_self {names : List String} (distinct : names.Nodup) :
    names.eraseDups = names := by
  induction names with
  | nil => rfl
  | cons name rest ih =>
      obtain ⟨new, others⟩ := List.nodup_cons.mp distinct
      have kept : rest.filter (fun other => !other == name) = rest := by
        apply List.filter_eq_self.mpr
        intro other found
        have apart : other ≠ name := fun same => new (same ▸ found)
        simpa using apart
      rw [List.eraseDups_cons, kept, ih others]

theorem profile?_eq_some {config : Config} (ascending : Ascending config.profiles) {name : String}
    {profile : Profile} :
    config.profile? name = some profile ↔ (name, profile) ∈ config.profiles := by
  rw [← ascending.find?_eq_some, profile?, Option.map_eq_some_iff]
  constructor
  · intro given
    obtain ⟨entry, found, rfl⟩ := given
    have named : entry.1 = name := by simpa using List.find?_some found
    rw [found, ← named]
  · exact fun found => ⟨_, found, rfl⟩

theorem mem_inOrder {config : Config} (ascending : Ascending config.profiles)
    {order : List String} {entry : String × Profile} :
    entry ∈ config.inOrder order ↔ entry ∈ config.profiles := by
  obtain ⟨name, profile⟩ := entry
  simp only [inOrder, List.mem_append, List.mem_filterMap, List.mem_eraseDups, List.mem_filter,
    Option.map_eq_some_iff, Prod.mk.injEq, profile?_eq_some ascending]
  constructor
  · rintro (⟨_, -, _, there, rfl, rfl⟩ | ⟨there, -⟩)
    · exact there
    · exact there
  · intro there
    by_cases listed : name ∈ order
    · exact .inl ⟨name, listed, profile, there, rfl, rfl⟩
    · exact .inr ⟨there, by simpa using listed⟩

theorem nodup_inOrder {config : Config} (ascending : Ascending config.profiles)
    (order : List String) : (config.inOrder order).Nodup := by
  apply List.nodup_append.mpr
  refine ⟨?listed, ?others, ?apart⟩
  case listed =>
    refine List.Nodup.filterMap ?_ (nodup_eraseDups order)
    intro one two entry first second
    obtain ⟨_, -, rfl⟩ := Option.map_eq_some_iff.mp first
    obtain ⟨_, -, same⟩ := Option.map_eq_some_iff.mp second
    exact (congrArg Prod.fst same).symm
  case others => exact (ascending.imp fun below same => (same ▸ below).false).filter _
  case apart =>
    rintro _ member other found rfl
    obtain ⟨name, listed, made⟩ := List.mem_filterMap.mp member
    obtain ⟨_, -, rfl⟩ := Option.map_eq_some_iff.mp made
    have missing := (List.mem_filter.mp found).2
    simp [List.mem_eraseDups.mp listed] at missing

/-- The orders in which profiles may come are all that there are. -/
theorem exists_inOrder_iff {config : Config} (ascending : Ascending config.profiles)
    {profiles : List (String × Profile)} :
    (∃ order, config.inOrder order = profiles) ↔ profiles.Perm config.profiles := by
  have nodup : config.profiles.Nodup := ascending.imp fun below same => (same ▸ below).false
  constructor
  · rintro ⟨order, rfl⟩
    apply (List.perm_ext_iff_of_nodup (nodup_inOrder ascending order) nodup).mpr
    exact fun _ => mem_inOrder ascending
  · intro perm
    have names : (profiles.map (·.1)).Nodup := by
      refine (perm.map (·.1)).nodup_iff.mpr (List.pairwise_map.mpr ?_)
      exact ascending.imp fun below same => (same ▸ below).false
    refine ⟨profiles.map (·.1), ?_⟩
    have listed : (profiles.map (·.1)).filterMap
        (fun name => (config.profile? name).map (name, ·)) = profiles := by
      rw [List.filterMap_map]
      refine (List.filterMap_congr fun entry found => ?_).trans List.filterMap_some
      rw [Function.comp_apply, (profile?_eq_some ascending).mpr (perm.subset found)]
      rfl
    have others : config.profiles.filter (!(profiles.map (·.1)).contains ·.1) = [] := by
      apply List.filter_eq_nil_iff.mpr
      intro entry found
      have there : entry.1 ∈ profiles.map (·.1) :=
        List.mem_map_of_mem (perm.symm.subset found)
      simp [there]
    rw [inOrder, eraseDups_eq_self names, listed, others, List.append_nil]

/-! ## Passwords apart -/

/-- Profiles that differ in the value of a password at most. -/
structure Profile.SameButPassword (one two : Profile) : Prop where
  rest : { one with password := none } = { two with password := none }
  password : one.password.isSome = two.password.isSome

/-- Configurations that differ in the values of passwords at most. -/
structure SameButPasswords (one two : Config) : Prop where
  defaultProfile : one.defaultProfile = two.defaultProfile
  defaults : one.defaults = two.defaults
  profiles : List.Forall₂ (fun first second => first.1 = second.1 ∧
    first.2.SameButPassword second.2) one.profiles two.profiles

end Config

namespace Console

open Config

theorem masked_password_eq_iff {one two : Option String} :
    (one.map fun _ => mask) = (two.map fun _ => mask) ↔ one.isSome = two.isSome := by
  cases one <;> cases two <;> simp

theorem masked_profile_eq_iff {one two : Profile} :
    { one with password := one.password.map fun _ => mask } =
      { two with password := two.password.map fun _ => mask } ↔ one.SameButPassword two := by
  constructor
  · intro same
    refine ⟨?rest, masked_password_eq_iff.mp (congrArg Profile.password same)⟩
    case rest => exact congrArg (fun profile : Profile => { profile with password := none }) same
  · intro same
    obtain ⟨rest, password⟩ := same
    rw [masked_password_eq_iff.mpr password]
    exact congrArg
      (fun profile : Profile => { profile with password := two.password.map fun _ => mask }) rest

/-- Masking leaves the same of two configurations if and only if they differ in the values of
passwords at most. -/
theorem masked_eq_iff {one two : Config} : masked one = masked two ↔ one.SameButPasswords two := by
  have profiles : (masked one).profiles = (masked two).profiles ↔
      List.Forall₂ (fun first second => first.1 = second.1 ∧ first.2.SameButPassword second.2)
        one.profiles two.profiles := by
    rw [← List.forall₂_eq_eq_eq]
    simp only [masked, List.forall₂_map_left_iff, List.forall₂_map_right_iff, Prod.mk.injEq,
      masked_profile_eq_iff]
  constructor
  · intro same
    have defaultProfile : (masked one).defaultProfile = (masked two).defaultProfile :=
      congrArg Config.defaultProfile same
    have defaults : (masked one).defaults = (masked two).defaults := congrArg Config.defaults same
    exact ⟨defaultProfile, defaults, profiles.mp (congrArg Config.profiles same)⟩
  · intro same
    obtain ⟨defaultProfile, defaults, alike⟩ := same
    obtain ⟨firstDefault, firstDefaults, _⟩ := one
    obtain ⟨secondDefault, secondDefaults, _⟩ := two
    cases defaultProfile
    cases defaults
    exact congrArg (Config.mk firstDefault firstDefaults) (profiles.mpr alike)

/-! ## What is shown -/

theorem run_show {options : Options} {scene : Scene} {config : Config}
    (loaded : Config.load scene.files scene.environment scene.home = .ok config) :
    Invocation.run ⟨options, .config .show⟩ scene =
      let p := presentation options config
      scene.shown p ((configSheet scene.order).text p.format (masked config)) := by
  simp only [Invocation.run, configured, loaded, ConfigCommand.run]

/-- What a scene may show of its configuration: an output for each order in which the run may come
across the profiles. -/
def Scene.showings (options : Options) (scene : Scene) : Set (List UInt8) :=
  { output | ∃ order,
    (Invocation.run ⟨options, .config .show⟩ { scene with order }).output = output }

/-- What is shown of two configurations cannot be told apart. -/
structure ShownAlike (one two : Scene) (first second : Config) : Prop where
  /-- Profile by profile in any order, the text is the same in every format. -/
  texts : ∀ format order, (configSheet order).text format (masked first) =
    (configSheet order).text format (masked second)
  /-- The runs succeed, and if both come across profiles in one order they have one output. -/
  outputs : ∀ options order, ∃ output,
    (Invocation.run ⟨options, .config .show⟩ { one with order }).output = output ∧
    (Invocation.run ⟨options, .config .show⟩ { two with order }).output = output ∧
    (Invocation.run ⟨options, .config .show⟩ { one with order }).result = .ok () ∧
    (Invocation.run ⟨options, .config .show⟩ { two with order }).result = .ok ()
  /-- Where profiles are sorted or left out, they have one output whatever the orders. -/
  sorted : ∀ options, (presentation options first).format ∈ [Format.table, .plain] →
    (Invocation.run ⟨options, .config .show⟩ one).output =
      (Invocation.run ⟨options, .config .show⟩ two).output
  /-- All in all, what may be shown of one is what may be shown of the other. -/
  showings : ∀ options, one.showings options = two.showings options

/-- A scene with a configuration of two profiles, of which one has a password. -/
def profileScene (password : String) : Scene where
  home := "/home"
  environment := [("UNIFIED_DEFAULTS__OUTPUT", "yaml")]
  files := ⟨[([], .directory), (["home"], .directory), (["home", ".config"], .directory),
    (["home", ".config", "unified"], .directory),
    (["home", ".config", "unified", "config.toml"],
      .text ("[profiles.lab]\ncontroller = \"lab\"\npassword = " ++ password ++
        "\n[profiles.home]\ncontroller = \"10.0.0.1\"\nusername = \"admin\"\n"))]⟩
  wire := { reaches := fun _ => false, replies := [], sent := [] }

end Console

end NetConsole
