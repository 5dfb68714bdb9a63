import NetConsole.Config.Loading
import NetConsole.Config.Saving
import NetConsole.Proofs.Config.Extraction
import NetConsole.Proofs.Files.Basic
import NetConsole.Proofs.Toml.Drafts

/-!
# Saving and loading a configuration
-/

set_option autoImplicit false

namespace NetConsole.Config

open Decimal Json Stepwise Toml

/-! ## What is written -/

/-- The entries of the defaults. -/
def Defaults.entries (d : Defaults) : List (String × Literal) :=
  [("output", .text d.output), ("color", .text d.color), ("timeout", .integer d.timeout),
    ("use_db", .flag d.useStore)]

/-- The entries of a profile, one for each field that is set. -/
def Profile.entries (p : Profile) : List (String × Literal) :=
  [("controller", .text p.controller), ("site", .text p.site)] ++
    entryIf "username" (p.username.map .text) ++ entryIf "password" (p.password.map .text) ++
    entryIf "insecure" (p.insecure.map .flag) ++ entryIf "ca_cert" (p.caCert.map .text) ++
    entryIf "timeout" (p.timeout.map fun (n : Nat) => .integer n) ++
    entryIf "db_path" (p.storePath.map .text)

/-- A configuration whose timeouts fit the format of the file. -/
structure Fits (config : Config) : Prop where
  defaults : config.defaults.timeout < half64
  profiles : ∀ entry ∈ config.profiles, ∀ n ∈ entry.2.timeout, n < half64

/-- The section before the first header. -/
def topSections : Option String → List Toml.Section
  | none => []
  | some name => [⟨[], [("default_profile", .text name)]⟩]

/-- The sections of the profiles, or the one that says that there are none. -/
def profileSections : List (String × Profile) → List Toml.Section
  | [] => [⟨["profiles"], []⟩]
  | profiles => profiles.map fun entry => ⟨["profiles", entry.1], entry.2.entries⟩

/-- The sections of a configuration. -/
def sections (config : Config) : List Toml.Section :=
  topSections config.defaultProfile ++ ⟨["defaults"], config.defaults.entries⟩ ::
    profileSections config.profiles

theorem wordEntry_eq_ok {key : String} {n : Nat} {entries : List (String × Literal)} :
    wordEntry key n = .ok entries ↔ n < half64 ∧ entries = [(key, .integer n)] := by
  rw [wordEntry]
  by_cases small : n < half64
  · simp [small, eq_comm]
  · simp [small]

theorem Defaults.part_eq_ok {d : Defaults} {part : Toml.Section} :
    d.part = .ok part ↔ d.timeout < half64 ∧ part = ⟨["defaults"], d.entries⟩ := by
  simp only [Defaults.part, bind_eq_ok, wordEntry_eq_ok, pure, Except.pure]
  constructor
  · rintro ⟨_, ⟨small, rfl⟩, done⟩
    cases done
    exact ⟨small, rfl⟩
  · rintro ⟨small, rfl⟩
    exact ⟨_, ⟨small, rfl⟩, rfl⟩

theorem Profile.part_eq_ok {name : String} {p : Profile} {part : Toml.Section} :
    p.part name = .ok part ↔
      (∀ n ∈ p.timeout, n < half64) ∧ part = ⟨["profiles", name], p.entries⟩ := by
  unfold Profile.part Profile.entries
  cases p.timeout with
  | none => simp [entryIf, pure, Except.pure, bind, Except.bind, eq_comm]
  | some n =>
      simp only [bind_eq_ok, wordEntry_eq_ok, pure, Except.pure]
      constructor
      · rintro ⟨_, ⟨small, rfl⟩, done⟩
        cases done
        exact ⟨by simpa using small, rfl⟩
      · rintro ⟨small, rfl⟩
        exact ⟨_, ⟨small n rfl, rfl⟩, rfl⟩

theorem profileParts_eq_ok {profiles : List (String × Profile)} {parts : List Toml.Section} :
    (profiles.mapM fun (name, profile) => profile.part name) = .ok parts ↔
      (∀ entry ∈ profiles, ∀ n ∈ entry.2.timeout, n < half64) ∧
        parts = profiles.map fun entry => ⟨["profiles", entry.1], entry.2.entries⟩ := by
  induction profiles generalizing parts with
  | nil => simp [pure, Except.pure, eq_comm]
  | cons entry profiles ih =>
      simp only [List.mapM_cons, bind_eq_ok, Profile.part_eq_ok, ih, pure, Except.pure,
        List.forall_mem_cons, List.map_cons]
      constructor
      · rintro ⟨_, ⟨small, rfl⟩, _, ⟨others, rfl⟩, done⟩
        cases done
        exact ⟨⟨small, others⟩, rfl⟩
      · rintro ⟨⟨small, others⟩, rfl⟩
        exact ⟨_, ⟨small, rfl⟩, _, ⟨others, rfl⟩, rfl⟩

/-- A configuration can be written if its timeouts fit. -/
theorem parts_eq_ok {config : Config} {parts : List Toml.Section} :
    config.parts = .ok parts ↔ config.Fits ∧ parts = config.sections := by
  have same : sections config = topSections config.defaultProfile ++
      [⟨["defaults"], config.defaults.entries⟩] ++
      (if (config.profiles.map fun entry =>
        (⟨["profiles", entry.1], entry.2.entries⟩ : Toml.Section)).isEmpty then
          [⟨["profiles"], []⟩]
      else config.profiles.map fun entry => ⟨["profiles", entry.1], entry.2.entries⟩) := by
    unfold sections
    cases config.profiles <;> simp [profileSections]
  simp only [Config.parts, bind_eq_ok, Defaults.part_eq_ok, profileParts_eq_ok, pure, Except.pure]
  constructor
  · rintro ⟨_, ⟨small, rfl⟩, _, ⟨others, rfl⟩, done⟩
    cases done
    exact ⟨⟨small, others⟩, same.symm⟩
  · rintro ⟨⟨small, others⟩, rfl⟩
    exact ⟨_, ⟨small, rfl⟩, _, ⟨others, rfl⟩, congrArg _ same.symm⟩

/-! ## The table of a file -/

theorem fits_word {n : Nat} (small : n < half64) : (Literal.integer n).Fits := by
  unfold Literal.Fits IsSigned
  omega

theorem Defaults.entries_fit {d : Defaults} (small : d.timeout < half64) :
    ∀ entry ∈ d.entries, entry.2.Fits := by
  simp [Defaults.entries, fits_word small]

theorem Profile.entries_fit {p : Profile} (small : ∀ n ∈ p.timeout, n < half64) :
    ∀ entry ∈ p.entries, entry.2.Fits := by
  have each {α : Type} (key : String) (value : Option α) (wrap : α → Literal)
      (fits : ∀ a ∈ value, (wrap a).Fits) :
      ∀ entry ∈ entryIf key (value.map wrap), entry.2.Fits := by
    cases value with
    | none => exact nofun
    | some a => simpa [entryIf] using fits
  simp only [Profile.entries, List.forall_mem_append]
  refine ⟨⟨⟨⟨⟨⟨?_, ?_⟩, ?_⟩, ?_⟩, ?_⟩, ?timeout⟩, ?_⟩
  case timeout => exact each _ _ _ fun n isTimeout => fits_word (small n isTimeout)
  · simp
  all_goals exact each _ _ _ fun _ _ => trivial

theorem Defaults.entries_distinct (d : Defaults) : (d.entries.map (·.1)).Nodup := by
  have keys : d.entries.map (·.1) = ["output", "color", "timeout", "use_db"] := rfl
  rw [keys]
  decide

theorem Profile.entries_distinct (p : Profile) : (p.entries.map (·.1)).Nodup := by
  have key (key : String) (value : Option Literal) :
      ((entryIf key value).map (·.1)).Sublist [key] := by
    cases value <;> simp [entryIf]
  have keys : (p.entries.map (·.1)).Sublist ["controller", "site", "username", "password",
      "insecure", "ca_cert", "timeout", "db_path"] := by
    simp only [Profile.entries, List.map_append]
    exact ((((((List.Sublist.refl ["controller", "site"]).append (key _ _)).append
      (key _ _)).append (key _ _)).append (key _ _)).append (key _ _)).append (key _ _)
  exact keys.nodup (by decide)

theorem fits_sections {config : Config} (fits : config.Fits) :
    ∀ part ∈ config.sections, part.Fits := by
  have short {count : Nat} (few : count ≤ 2) : count ≤ maxSteps := Nat.le_trans few (by decide)
  have top : ∀ part ∈ topSections config.defaultProfile, part.Fits := by
    cases config.defaultProfile with
    | none => exact nofun
    | some name => exact List.forall_mem_singleton.mpr ⟨short (Nat.zero_le 2), by simp⟩
  have defaults : Section.Fits ⟨["defaults"], config.defaults.entries⟩ :=
    ⟨short (Nat.le_succ 1), config.defaults.entries_fit fits.defaults⟩
  have profiles : ∀ part ∈ profileSections config.profiles, part.Fits := by
    cases shape : config.profiles with
    | nil => exact List.forall_mem_singleton.mpr ⟨short (Nat.le_succ 1), nofun⟩
    | cons entry profiles =>
        refine List.forall_mem_map.mpr fun other member => ⟨short (Nat.le_refl 2), ?_⟩
        exact other.2.entries_fit (fits.profiles other (shape ▸ member))
  simp only [sections, List.forall_mem_append, List.forall_mem_cons]
  exact ⟨top, defaults, profiles⟩

/-- The tables of profiles, each with its entries. -/
def profileTables (profiles : List (String × Profile)) : List (String × List (String × Literal)) :=
  profiles.map fun entry => (entry.1, entry.2.entries)

theorem addSections_profiles {profiles : List (String × Profile)}
    (distinct : (profiles.map (·.1)).Nodup) {draft : Draft} {closed : Members}
    (isClosed : draft.close = some closed) (missing : itemAt? "profiles" closed = none) :
    ∃ next after, (profileSections profiles).foldlM Draft.addSection draft = some next ∧
      next.close = some after ∧
      (∃ origin, itemAt? "profiles" after =
        some (.table origin (tableItems (profileTables profiles)))) ∧
      ∀ other, other ≠ "profiles" → itemAt? other after = itemAt? other closed := by
  cases profiles with
  | nil =>
      have empty : (([] : List (String × Literal)).map (·.1)).Nodup := List.nodup_nil
      obtain ⟨next, added, closes⟩ := addSection_one isClosed missing empty
      refine ⟨next, _, by simp [profileSections, added], closes, ⟨.header, ?_⟩, ?_⟩
      · rw [itemAt?_append, missing]
        rfl
      · intro other unlike
        rw [itemAt?_append, itemAt?_cons, if_neg unlike.symm]
        exact Option.or_none
  | cons entry profiles =>
      have keys : ((profileTables (entry :: profiles)).map (·.1)).Nodup := by
        simpa [profileTables, Function.comp_def] using distinct
      obtain ⟨next, after, added, closes, through, kept⟩ :=
        addSections_two isClosed (.inl ⟨missing, rfl⟩) keys (fun _ _ => rfl) fun table member => by
          obtain ⟨other, -, rfl⟩ := List.mem_map.mp member
          exact other.2.entries_distinct
      refine ⟨next, after, ?_, closes, ⟨.step, ?_⟩, kept⟩
      · rw [profileTables, List.map_map] at added
        exact added
      · rcases through with ⟨-, nothing⟩ | held
        · simp [tableItems, profileTables] at nothing
        · exact held

/-- What stands right below the top of a file that has a configuration in it. -/
structure Holds (config : Config) (closed : Members) : Prop where
  named : itemAt? "default_profile" closed =
    config.defaultProfile.map fun name => .value (.text name)
  defaults : itemAt? "defaults" closed = some (.table .header (entryItems config.defaults.entries))
  profiles : ∃ origin, itemAt? "profiles" closed =
    some (.table origin (tableItems (profileTables config.profiles)))

theorem addSections_top (name : Option String) :
    ∃ draft closed, (topSections name).foldlM Draft.addSection .empty = some draft ∧
      draft.close = some closed ∧
      itemAt? "default_profile" closed = (name.map fun name => .value (.text name)) ∧
      ∀ key, key ≠ "default_profile" → itemAt? key closed = none := by
  cases name with
  | none => exact ⟨.empty, [], rfl, rfl, rfl, fun _ _ => rfl⟩
  | some name =>
      refine ⟨_, [("default_profile", .value (.text name))], rfl, rfl, rfl, fun key apart => ?_⟩
      rw [itemAt?_cons, if_neg apart.symm]
      rfl

theorem holds_sections (config : Config) (distinct : (config.profiles.map (·.1)).Nodup) :
    ∃ draft closed, config.sections.foldlM Draft.addSection .empty = some draft ∧
      draft.close = some closed ∧ config.Holds closed := by
  obtain ⟨first, top, addedTop, closesTop, named, nothing⟩ :=
    addSections_top config.defaultProfile
  obtain ⟨second, addedDefaults, closesDefaults⟩ :=
    addSection_one closesTop (nothing "defaults" (by decide)) config.defaults.entries_distinct
  have missing : itemAt? "profiles" (top ++ [("defaults",
      .table .header (entryItems config.defaults.entries))]) = none := by
    rw [itemAt?_append, nothing "profiles" (by decide)]
    rfl
  obtain ⟨third, closed, addedProfiles, closes, profiles, kept⟩ :=
    addSections_profiles distinct closesDefaults missing
  refine ⟨third, closed, ?_, closes, ?_, ?_, profiles⟩
  · simp [sections, addedTop, addedDefaults, addedProfiles]
  · rw [kept _ (by decide), itemAt?_append, named]
    cases config.defaultProfile <;> rfl
  · rw [kept _ (by decide), itemAt?_append, nothing "defaults" (by decide)]
    rfl

/-- The table of a file that has a configuration in it. -/
structure IsTable (config : Config) (table : Table) : Prop where
  ascending : Ascending table
  named : table.find? "default_profile" = config.defaultProfile.map .text
  defaults : table.find? "defaults" = some (.table (tableOf (entryItems config.defaults.entries)))
  profiles : table.find? "profiles" = some (.table (tableOf
    (tableItems (profileTables config.profiles))))

theorem read?_sections {config : Config} (fits : config.Fits)
    (distinct : (config.profiles.map (·.1)).Nodup) :
    ∃ table, Toml.read? (documentText config.sections) = some table ∧ config.IsTable table := by
  obtain ⟨draft, closed, added, closes, holds⟩ := holds_sections config distinct
  obtain ⟨origin, profiles⟩ := holds.profiles
  refine ⟨_, read?_documentText (fits_sections fits) added closes, ?_⟩
  exact
    { ascending := ascending_tableOf closed
      named := by
        rw [find?_tableOf, holds.named, Option.map_map]
        cases config.defaultProfile <;> rfl
      defaults := by
        rw [find?_tableOf, holds.defaults]
        rfl
      profiles := by
        rw [find?_tableOf, profiles]
        rfl }

end NetConsole.Config
