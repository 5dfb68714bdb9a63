import NetConsole.Proofs.Config.Saving

/-!
# Loading a configuration that was saved

What is written of a configuration is all there is to it: loaded without an environment, its file
gives the configuration back. The names of profiles come out in ascending order whatever order they
were written in, and what holds where nothing is configured is covered by the file everywhere but
for the profiles, of which there are none to be covered.
-/

set_option autoImplicit false

namespace NetConsole.Config

open Decimal Json Stepwise Toml

/-! ## Fields -/

theorem find?_entries (key : String) (entries : List (String × Literal)) :
    Table.find? (tableOf (entryItems entries)) key =
      (entries.find? (·.1 == key)).map fun entry => entry.2.setting := by
  rw [find?_tableOf, itemAt?, entryItems, List.find?_map, Option.map_map, Option.map_map]
  rfl

theorem find?_entries_of_mem {entries : List (String × Literal)}
    (distinct : (entries.map (·.1)).Nodup) {key : String} {literal : Literal}
    (own : (key, literal) ∈ entries) :
    Table.find? (tableOf (entryItems entries)) key = some literal.setting := by
  have keys : ((entryItems entries).map (·.1)).Nodup := by
    simpa [entryItems, Function.comp_def] using distinct
  refine (Table.find?_eq_some (ascending_tableOf _)).mpr ((mem_tableOf keys _).mpr ?_)
  exact ⟨(key, .value literal.setting), List.mem_map_of_mem own, rfl⟩

theorem find?_entryIf (key other : String) (value : Option Literal) :
    (entryIf key value).find? (·.1 == other) =
      if key = other then value.map fun literal => (key, literal) else none := by
  cases value with
  | none => simp [entryIf]
  | some literal => 
      by_cases same : key = other
      · simp [entryIf, same]
      · simp [entryIf, same]

theorem readSetting_text (path : List String) (s : String) :
    readSetting .text path (.text s) = .ok (.string s) := by
  rw [readSetting]
  · rfl
  all_goals simp

theorem readSetting_flag (path : List String) (b : Bool) :
    readSetting .flag path (.flag b) = .ok (.bool b) := by
  rw [readSetting]
  · rfl
  all_goals simp

theorem readSetting_word64 (path : List String) {n : Nat} (small : n < half64) :
    readSetting .word64 path (.integer n) = .ok (ofInteger n) := by
  have within : (0 : Int) ≤ n ∧ (n : Int) ≤ words64 - 1 := by
    simp only [half64, words64] at small ⊢
    omega
  rw [readSetting]
  · exact if_pos within
  all_goals simp

theorem readSetting_optional (shape : Shape) (path : List String) (setting : Setting) :
    readSetting (.optional shape) path setting = readSetting shape path setting := by
  cases setting with
  | list | table =>
      rw [readSetting, readSetting]
      rfl
  | flag | integer | fraction | text =>
      rw [readSetting, readSetting]
      · rfl
      all_goals simp

/-- A field that may be missing is read back as it was, set or not. -/
theorem extracts_nullable {path : List String} {table : Table} {key : String} {shape : Shape}
    {α : Type} {value : Option α} {wrap : α → Setting} (held : Option α → Json)
    (null : held none = .null) (found : table.find? key = value.map wrap)
    (reads : ∀ a ∈ value, readSetting shape (path ++ [key]) (wrap a) = .ok (held (some a))) :
    Extracts path table (Profile.nullable key shape) (key, held value) := by
  cases value with
  | none =>
      rw [null]
      exact .absent found rfl
  | some a =>
      refine .found found ?_
      rw [Profile.nullable, Field.shape, readSetting_optional]
      exact reads a rfl

theorem readSetting_profile {p : Profile} (small : ∀ n ∈ p.timeout, n < half64)
    (path : List String) :
    readSetting Profile.shape path (.table (tableOf (entryItems p.entries))) =
      .ok (Record.toJson p) := by
  have found (key : String) := find?_entries key p.entries
  have controller : Table.find? (tableOf (entryItems p.entries)) "controller" =
      some (.text p.controller) := by
    rw [found]
    rfl
  have site : Table.find? (tableOf (entryItems p.entries)) "site" = some (.text p.site) := by
    rw [found]
    rfl
  have optional {α : Type} (key : String) (value : Option α) (wrap : α → Literal)
      (own : p.entries.find? (·.1 == key) = (value.map wrap).map fun literal => (key, literal)) :
      Table.find? (tableOf (entryItems p.entries)) key =
        value.map fun a => (wrap a).setting := by
    rw [found, own]
    cases value <;> rfl
  refine (readSetting_record (by decide) (ascending_tableOf _)).mpr ⟨p.members, rfl, ?_⟩
  refine .cons (.found controller (readSetting_text _ _)) ?_
  refine .cons (.found site (readSetting_text _ _)) ?_
  refine .cons (extracts_nullable ofText? rfl (optional "username" p.username .text ?_)
    fun s _ => readSetting_text _ s) ?_
  · simp [Profile.entries, find?_entryIf]
  refine .cons (extracts_nullable ofText? rfl (optional "password" p.password .text ?_)
    fun s _ => readSetting_text _ s) ?_
  · simp [Profile.entries, find?_entryIf]
  refine .cons (extracts_nullable ofFlag? rfl (optional "insecure" p.insecure .flag ?_)
    fun b _ => readSetting_flag _ b) ?_
  · simp [Profile.entries, find?_entryIf]
  refine .cons (extracts_nullable ofText? rfl (optional "ca_cert" p.caCert .text ?_)
    fun s _ => readSetting_text _ s) ?_
  · simp [Profile.entries, find?_entryIf]
  refine .cons (extracts_nullable ofWord? rfl
    (optional "timeout" p.timeout (fun n => .integer n) ?_)
    fun n isTimeout => readSetting_word64 _ (small n isTimeout)) ?_
  · simp [Profile.entries, find?_entryIf]
  refine .cons (extracts_nullable ofText? rfl (optional "db_path" p.storePath .text ?_)
    fun s _ => readSetting_text _ s) .nil
  · simp [Profile.entries, find?_entryIf]

/-- A value that is written covers whatever is below it. -/
theorem covering_literal (literal : Literal) (below : Option Setting) :
    literal.setting.covering below = literal.setting := by
  cases literal <;> cases below <;> rfl

/-- The defaults are all written, so what holds where nothing is configured is covered. -/
theorem readSetting_defaults {d : Defaults} (small : d.timeout < half64) {base : Table}
    (ascending : Ascending base) (path : List String) :
    readSetting Defaults.shape path (.table (overTable (tableOf (entryItems d.entries)) base)) =
      .ok (Record.toJson d) := by
  have found {key : String} (literal : Literal) (own : (key, literal) ∈ d.entries) :
      Table.find? (overTable (tableOf (entryItems d.entries)) base) key =
        some literal.setting := by
    rw [find?_overTable (ascending_tableOf _) ascending,
      find?_entries_of_mem d.entries_distinct own, Option.map_some, covering_literal, Option.some_or]
  refine (readSetting_record (by decide) (ascending_overTable _ ascending)).mpr
    ⟨d.members, rfl, ?_⟩
  refine .cons (.found (found (.text d.output) ?_) (readSetting_text _ _)) ?_
  · simp [Defaults.entries, Field.key]
  refine .cons (.found (found (.text d.color) ?_) (readSetting_text _ _)) ?_
  · simp [Defaults.entries, Field.key]
  refine .cons (.found (found (.integer d.timeout) ?_) (readSetting_word64 _ small)) ?_
  · simp [Defaults.entries, Field.key]
  refine .cons (.found (found (.flag d.useStore) ?_) (readSetting_flag _ _)) .nil
  simp [Defaults.entries, Field.key, Field.flag]

/-! ## Records -/

theorem textAt?_of_get? {key : String} {value : Json} {held : Option String}
    (found : value.get? key = some (ofText? held)) : textAt? key value = held := by
  cases held <;> simp [textAt?, found, ofText?]

theorem flagAt?_of_get? {key : String} {value : Json} {held : Option Bool}
    (found : value.get? key = some (ofFlag? held)) : flagAt? key value = held := by
  cases held <;> simp [flagAt?, found, ofFlag?]

theorem wordAt?_of_get? {key : String} {value : Json} {held : Option Nat}
    (found : value.get? key = some (ofWord? held)) :
    (integerAt? key value).map Int.toNat = held := by
  cases held <;> simp [integerAt?, found, ofWord?, ofInteger?]

theorem Profile.ofJson_toJson (p : Profile) : Profile.ofJson (Record.toJson p) = p := by
  have get (key : String) : (Record.toJson p).get? key = lookup key p.members := rfl
  have username : textAt? "username" (Record.toJson p) = p.username :=
    textAt?_of_get? (by simp [get, members, lookup])
  have password : textAt? "password" (Record.toJson p) = p.password :=
    textAt?_of_get? (by simp [get, members, lookup])
  have insecure : flagAt? "insecure" (Record.toJson p) = p.insecure :=
    flagAt?_of_get? (by simp [get, members, lookup])
  have caCert : textAt? "ca_cert" (Record.toJson p) = p.caCert :=
    textAt?_of_get? (by simp [get, members, lookup])
  have timeout : (integerAt? "timeout" (Record.toJson p)).map Int.toNat = p.timeout :=
    wordAt?_of_get? (by simp [get, members, lookup])
  have storePath : textAt? "db_path" (Record.toJson p) = p.storePath :=
    textAt?_of_get? (by simp [get, members, lookup])
  simp [Profile.ofJson, username, password, insecure, caCert, timeout, storePath]
  simp [textAt, get, members, lookup]

theorem Defaults.ofJson_toJson (d : Defaults) : Defaults.ofJson (Record.toJson d) = d := by
  have get (key : String) : (Record.toJson d).get? key = lookup key d.members := rfl
  simp [Defaults.ofJson, textAt, flagAt, integerAt, integerAt?, get, members, lookup, ofInteger]

/-- A configuration is what its value is read as. -/
theorem ofJson_members (config : Config) : ofJson (.object config.members) = config := by
  have named : (Json.object config.members).get? "default_profile" =
      some (ofText? config.defaultProfile) := by simp [Json.get?, members, lookup]
  have defaults : (Json.object config.members).get? "defaults" =
      some (Record.toJson config.defaults) := by simp [Json.get?, members, lookup]
  have profiles : (Json.object config.members).get? "profiles" =
      some (.object (config.profiles.map fun entry => (entry.1, Record.toJson entry.2))) := by
    simp [Json.get?, members, lookup]
  simp [ofJson, textAt?_of_get? named, defaults, profiles, Defaults.ofJson_toJson,
    Profile.ofJson_toJson, Function.comp_def]

/-! ## Profiles -/

/-- The table of profiles, in whatever order they were written. -/
theorem tableOf_profiles {profiles order : List (String × Profile)} (ascending : Ascending profiles)
    (same : order.Perm profiles) :
    tableOf (tableItems (profileTables order)) =
      profiles.map fun entry => (entry.1, .table (tableOf (entryItems entry.2.entries))) := by
  have distinct : (order.map (·.1)).Nodup :=
    (same.map _).nodup_iff.mpr (List.pairwise_map.mpr (ascending.imp ne_of_lt))
  have keys : ((tableItems (profileTables order)).map (·.1)).Nodup := by
    simpa [tableItems, profileTables, Function.comp_def] using distinct
  refine (ascending_tableOf _).ext (List.pairwise_map.mpr ascending) fun entry => ?_
  rw [mem_tableOf keys]
  simp [tableItems, profileTables, same.mem_iff, Item.setting, eq_comm]

theorem readSetting_profiles {profiles : List (String × Profile)}
    (small : ∀ entry ∈ profiles, ∀ n ∈ entry.2.timeout, n < half64) (path : List String) :
    readSetting (.keyed Profile.shape) path (.table (profiles.map fun entry =>
      (entry.1, .table (tableOf (entryItems entry.2.entries))))) =
        .ok (.object (profiles.map fun entry => (entry.1, Record.toJson entry.2))) := by
  refine readSetting_keyed.mpr ⟨_, _, rfl, readAll_eq_ok.mpr ?_, rfl⟩
  rw [List.forall₂_map_left_iff, List.forall₂_map_right_iff, List.forall₂_same]
  exact fun entry member => ⟨rfl, readSetting_profile (small entry member) _⟩

/-! ## Configurations -/

theorem ascending_initial : Ascending initial.settings := Table.ascending_ofMembers _

theorem find?_overInitial {table : Table} (ascending : Ascending table) {key : String}
    {value : Setting} (found : table.find? key = some value) :
    Table.find? (overTable table initial.settings) key =
      some (value.covering (initial.settings.find? key)) := by
  rw [find?_overTable ascending ascending_initial, found, Option.map_some, Option.some_or]

/-- A file that has a configuration in it is loaded as that configuration. -/
theorem ofSettings_of_isTable {config : Config} (ascending : Ascending config.profiles)
    {name : String} (named : config.defaultProfile = some name) (fits : config.Fits)
    {order : List (String × Profile)} (same : order.Perm config.profiles) {table : Table}
    (holds : IsTable { config with profiles := order } table) :
    ofSettings (overTable table initial.settings) = .ok config := by
  have atTop : Table.find? (overTable table initial.settings) "default_profile" =
      config.defaultProfile.map .text := by
    rw [named]
    exact find?_overInitial holds.ascending (holds.named.trans (congrArg _ named))
  have below : ∃ base, Ascending base ∧
      Table.find? (overTable table initial.settings) "defaults" =
        some (.table (overTable (tableOf (entryItems config.defaults.entries)) base)) :=
    ⟨_, Table.ascending_ofMembers _, find?_overInitial holds.ascending holds.defaults⟩
  have each : Table.find? (overTable table initial.settings) "profiles" =
      some (.table (config.profiles.map fun entry =>
        (entry.1, .table (tableOf (entryItems entry.2.entries))))) := by
    rw [← tableOf_profiles ascending same, ← overTable_nil (ascending_tableOf _)]
    exact find?_overInitial holds.ascending holds.profiles
  obtain ⟨base, baseAscending, defaults⟩ := below
  have read : readSetting shape [] (.table (overTable table initial.settings)) =
      .ok (.object config.members) := by
    refine (readSetting_record (by decide) (ascending_overTable _ ascending_initial)).mpr
      ⟨config.members, rfl, ?_⟩
    refine .cons (extracts_nullable ofText? rfl atTop fun s _ => readSetting_text _ s) ?_
    refine .cons (.found defaults (readSetting_defaults fits.defaults baseAscending _)) ?_
    exact .cons (.found each (readSetting_profiles fits.profiles _)) .nil
  rw [ofSettings, read]
  exact congrArg _ (ofJson_members config)

/-! ## Loaded configurations -/

theorem ascending_ofFile {files : Files} {path : String} {table : Table}
    (read : ofFile files path = .ok table) : Ascending table := by
  unfold ofFile at read
  split at read
  · cases read
    exact List.Pairwise.nil
  split at read
  case _ found =>
    cases read
    simp only [Toml.read?, bind, Option.bind_eq_some_iff, pure, Option.some.injEq] at found
    obtain ⟨draft, -, members, -, rfl⟩ := found
    exact ascending_tableOf members
  · cases read

theorem find?_over_some {upper lower : Table} (first : Ascending upper) (second : Ascending lower)
    {key : String} {below : Setting} (found : lower.find? key = some below) :
    Table.find? (overTable upper lower) key =
      some (((upper.find? key).map (·.above below)).getD below) := by
  rw [find?_overTable first second, found]
  cases upper.find? key <;> rfl

theorem exists_text_of_readSetting {path : List String} {setting : Setting} {value : Json}
    (read : readSetting (.optional .text) path setting = .ok value) : ∃ s, value = .string s := by
  rw [readSetting_optional] at read
  cases setting with
  | text s =>
      rw [readSetting_text] at read
      cases read
      exact ⟨s, rfl⟩
  | list | table =>
      rw [readSetting] at read
      cases read
  | flag | integer | fraction =>
      rw [readSetting] at read
      · cases read
      all_goals simp

theorem names_of_readAll {shape : Shape} {path : List String} {table : Table}
    {values : List (String × Json)} (read : readAll shape path table = .ok values) :
    values.map (·.1) = table.map (·.1) := by
  have each := readAll_eq_ok.mp read
  clear read
  induction each with
  | nil => rfl
  | cons first _ ih => rw [List.map_cons, List.map_cons, first.1, ih]

theorem Extracts.named {path : List String} {table : Table} {field : Field}
    {member : String × Json} (extracts : Extracts path table field member) :
    member.1 = field.key := by
  cases extracts <;> rfl

theorem Extracts.of_found {path : List String} {table : Table} {field : Field}
    {member : String × Json} (extracts : Extracts path table field member) {setting : Setting}
    (there : table.find? field.key = some setting) :
    ∃ value, member = (field.key, value) ∧
      readSetting field.shape (path ++ [field.key]) setting = .ok value := by
  cases extracts with
  | found alsoThere read =>
      cases there.symm.trans alsoThere
      exact ⟨_, rfl, read⟩
  | absent missing => cases there.symm.trans missing

/-- The profiles of a configuration ascend if the settings that they are read from do. -/
theorem ofSettings_ok {table : Table} (ascending : Ascending table) {config : Config}
    (read : ofSettings table = .ok config) {named profiles : Setting}
    (top : table.find? "default_profile" = some named)
    (each : table.find? "profiles" = some profiles) (ordered : profiles.Ordered) :
    Ascending config.profiles ∧ ∃ name, config.defaultProfile = some name := by
  obtain ⟨value, whole, rfl⟩ := map_eq_ok read
  have distinct : (fields.map Field.key).Nodup := by decide
  obtain ⟨members, rfl, extracts⟩ := (readSetting_record distinct ascending).mp whole
  cases extracts with | cons first others => ?_
  cases others with | @cons _ middle _ _ second others => ?_
  cases others with | cons third others => ?_
  cases others
  have between : middle.1 = "defaults" := second.named
  obtain ⟨_, rfl, stated⟩ := first.of_found top
  obtain ⟨name, rfl⟩ := exists_text_of_readSetting stated
  obtain ⟨_, rfl, stated⟩ := third.of_found each
  obtain ⟨members, values, rfl, all, rfl⟩ := readSetting_keyed.mp stated
  have ascends : Ascending values := by
    have names : (members.map (·.1)).Pairwise (· < ·) := List.pairwise_map.mpr ordered
    rw [← names_of_readAll all] at names
    exact List.pairwise_map.mp names
  constructor
  · have kept : Ascending (values.map fun entry => (entry.1, Profile.ofJson entry.2)) :=
      List.pairwise_map.mpr ascends
    simpa [ofJson, Json.get?, lookup, Field.key] using kept
  · refine ⟨name, ?_⟩
    simp [ofJson, textAt?, Json.get?, lookup, Field.key, Profile.nullable, between]

/-- A loaded configuration names a profile to take, and its profiles ascend. -/
theorem isLoaded {files : Files} {environment : Environment} {path : String} {config : Config}
    (loaded : loadFrom files environment path = .ok config) :
    Ascending config.profiles ∧ ∃ name, config.defaultProfile = some name := by
  obtain ⟨file, readFile, read⟩ := bind_eq_ok.mp loaded
  have fileAscending := ascending_ofFile readFile
  have lowerAscending := ascending_overTable file ascending_initial
  have above := ofEnvironment_ordered environment
  have lower : Table.find? (overTable file initial.settings) "profiles" = some _ :=
    find?_over_some fileAscending ascending_initial rfl
  refine ofSettings_ok (ascending_overTable _ lowerAscending) read
    (find?_over_some above.ascending lowerAscending
      (find?_over_some fileAscending ascending_initial rfl))
    (find?_over_some above.ascending lowerAscending lower) ?_
  have belowOrdered : (((file.find? "profiles").map fun upper : Setting =>
      upper.above (.table [])).getD (.table [])).Ordered := by
    cases file.find? "profiles" with
    | none => exact List.Pairwise.nil
    | some upper => exact upper.ordered_above_table List.Pairwise.nil
  cases found : Table.find? (ofEnvironment environment) "profiles" with
  | none => exact belowOrdered
  | some upper => exact (above.inside _ _ found).above belowOrdered

/-! ## Saving -/

theorem save_eq_ok {config : Config} {before after : Files} {path : String}
    (saved : save config before path = .ok after) :
    config.Fits ∧ after.read? (Path.ofText path) = some (documentText config.sections) := by
  unfold save at saved
  dsimp only at saved
  split at saved
  · cases saved
  obtain ⟨text, written, saved⟩ := bind_eq_ok.mp saved
  obtain ⟨parts, made, rfl⟩ := map_eq_ok written
  obtain ⟨fits, rfl⟩ := parts_eq_ok.mp made
  split at saved
  · cases saved
  case _ there =>
    cases saved
    exact ⟨fits, Files.read?_of_write there⟩

/-- A configuration that was loaded and saved is loaded again as it was, whatever order its profiles
are written in, where no variable of the environment is a setting. -/
theorem loadFrom_of_save {files : Files} {environment : Environment} {source : String}
    {config : Config} (loaded : loadFrom files environment source = .ok config)
    {order : List (String × Profile)} (same : order.Perm config.profiles) {before after : Files}
    {path : String} (saved : save { config with profiles := order } before path = .ok after)
    {other : Environment} (quiet : ∀ entry ∈ other, settingPath? entry.1 = none) :
    loadFrom after other path = .ok config := by
  obtain ⟨ascending, name, named⟩ := isLoaded loaded
  obtain ⟨fits, held⟩ := save_eq_ok saved
  have distinct : (order.map (·.1)).Nodup :=
    (same.map _).nodup_iff.mpr (List.pairwise_map.mpr (ascending.imp ne_of_lt))
  obtain ⟨table, read, isTable⟩ := read?_sections fits distinct
  have file : ofFile after path = .ok table := by
    simp [ofFile, held, read]
  have own : config.Fits :=
    ⟨fits.defaults, fun entry member => fits.profiles entry (same.mem_iff.mpr member)⟩
  rw [loadFrom, file, ofEnvironment_eq_nil quiet]
  exact ofSettings_of_isTable ascending named own same isTable

theorem loadFrom_of_save_sample :
    let files : Files := ⟨[(["c"], .text ("[profiles.\"my lab\"]\ncontroller = \"lab\"\n" ++
      "password = \"a\\\"'b\\n\"\n[profiles.home]\ncontroller = \"10.0.0.1\"\n"))]⟩
    let home : Profile := { controller := "10.0.0.1" }
    let lab : Profile := { controller := "lab", password := some "a\"'b\n" }
    let config : Config := ⟨some "home", {}, [("home", home), ("my lab", lab)]⟩
    let order := [("my lab", lab), ("home", home)]
    let after : Files := ⟨[(["d"], .directory), (["d", "e"], .text ("default_profile = \"home\"\n" ++
      "\n[defaults]\noutput = \"table\"\ncolor = \"auto\"\ntimeout = 30\nuse_db = false\n" ++
      "\n[profiles.\"my lab\"]\ncontroller = \"lab\"\nsite = \"default\"\n" ++
      "password = \"\"\"\na\"'b\n\"\"\"\n" ++
      "\n[profiles.home]\ncontroller = \"10.0.0.1\"\nsite = \"default\"\n"))]⟩
    loadFrom files [("UNIFIED_DEFAULT_PROFILE", "home")] "/c" = .ok config ∧
      save { config with profiles := order } .empty "/d/e" = .ok after ∧
      loadFrom after [("HOME", "/home")] "/d/e" = .ok config := by
  intro files home lab config order after
  have loaded : loadFrom files [("UNIFIED_DEFAULT_PROFILE", "home")] "/c" = .ok config := by
    decide +kernel
  have saved : save { config with profiles := order } .empty "/d/e" = .ok after := by
    decide +kernel
  exact ⟨loaded, saved, loadFrom_of_save loaded (.swap _ _ _) saved (by decide +kernel)⟩

end NetConsole.Config
