import NetConsole.Config.Loading
import NetConsole.Proofs.Config.Reloading

/-!
# Settings that fit

A setting fits a shape if it has the type that the shape asks for, and so have its parts. Exactly
these are read; every other one is refused for a flaw. So a configuration is loaded from an
environment alone if what the environment sets fits. Where it does not, an empty file makes that an
error, while without a file everything that the environment sets is dropped.
-/

set_option autoImplicit false

namespace NetConsole.Config

open Json Stepwise

/-! ## Fitting -/

/-- A table fits a record if its members fit the fields of their keys and none is missing that must
be there, and a list if its items fit the fields in their order. -/
inductive Setting.Fits : Setting → Shape → Prop
  | text {s : String} : Fits (.text s) .text
  | flag {b : Bool} : Fits (.flag b) .flag
  | integer {i low high : Int} {name : String} : low ≤ i → i ≤ high →
      Fits (.integer i) (.integer low high name)
  | optional {setting : Setting} {shape : Shape} : Fits setting shape →
      Fits setting (.optional shape)
  | keyed {members : Table} {item : Shape} :
      (∀ member ∈ members, Fits member.2 item) → Fits (.table members) (.keyed item)
  | named {members : Table} {name : String} {fields : List Field} {keepsRest : Bool} :
      (∀ member ∈ members, ∀ field ∈ fieldOf fields member.1, Fits member.2 field.shape) →
      (∀ field ∈ fields, field.absence.ofKey? = none → field.key ∈ members.map (·.1)) →
      Fits (.table members) (.record name fields keepsRest)
  | inOrder {items : List Setting} {name : String} {fields : List Field} {keepsRest : Bool} :
      (∀ pair ∈ fields.zip items, Fits pair.2 pair.1.shape) →
      (∀ field ∈ fields.drop items.length, field.absence.ofPosition? ≠ none) →
      Fits (.list items) (.record name fields keepsRest)

theorem base_ne_optional (shape inner : Shape) : shape.base.2 ≠ .optional inner := by
  fun_induction Shape.base shape with
  | case1 shape ih => exact ih
  | case2 shape plain => exact plain inner

theorem Setting.fits_base (setting : Setting) (shape : Shape) :
    setting.Fits shape.base.2 ↔ setting.Fits shape := by
  fun_induction Shape.base shape with
  | case1 shape ih =>
      rw [ih]
      constructor
      · exact .optional
      · intro fits
        cases fits with
        | optional fits => exact fits
  | case2 => exact Iff.rfl

/-! ## Judging -/

/-- A reading that succeeds on what fits, and is refused for a flaw otherwise. -/
inductive Judges {α : Type} (fits : Prop) : Except Error α → Prop
  | accepted {value : α} : fits → Judges fits (.ok value)
  | refused {flaw : Flaw} {path : List String} : ¬ fits → Judges fits (flawed flaw path)

namespace Judges

variable {α β : Type} {one two : Prop} {result : Except Error α}

theorem of_iff (judged : Judges one result) (same : one ↔ two) : Judges two result := by
  rwa [← propext same]

theorem map (judged : Judges one result) (wrap : α → β) : Judges one (result.map wrap) := by
  cases judged with
  | accepted fits => exact .accepted fits
  | refused misfit => exact .refused misfit

theorem bind (judged : Judges one result) {next : α → Except Error β}
    (later : ∀ value, result = .ok value → Judges two (next value)) :
    Judges (one ∧ two) (result >>= next) := by
  cases judged with
  | @accepted value fits => exact (later value rfl).of_iff (by simp [fits])
  | refused misfit => exact .refused fun both => misfit both.1

theorem iff_isSome (judged : Judges one result) : one ↔ result.toOption.isSome = true := by
  cases judged with
  | accepted fits => exact iff_of_true fits rfl
  | refused misfit => exact iff_of_false misfit nofun

/-- Two readings, whose values are put together. -/
theorem both (judged : Judges one result) {later : Except Error β} (others : Judges two later)
    {γ : Type} (wrap : α → β → γ) :
    Judges (one ∧ two) (result >>= fun value => later >>= fun rest => pure (wrap value rest)) :=
  judged.bind fun value _ => others.map (wrap value)

end Judges

/-! ## Reading -/

theorem judges_completeSettings (path : List String) (met : List (String × Json))
    (fields : List Field) :
    Judges (∀ field ∈ fields, (lookup field.key met).or field.absence.ofKey? ≠ none)
      (completeSettings path met fields) := by
  induction fields with
  | nil => exact .accepted nofun
  | cons field fields ih =>
      cases found : (lookup field.key met).or field.absence.ofKey? with
      | none =>
          rw [completeSettings_cons_none found]
          exact .refused fun each => each field List.mem_cons_self found
      | some value =>
          rw [completeSettings_cons_some found]
          refine (ih.map ((field.key, value) :: ·)).of_iff ?_
          rw [List.forall_mem_cons, found]
          exact (and_iff_right (Option.some_ne_none value)).symm

theorem judges_fillSettings (path : List String) (fields : List Field) :
    Judges (∀ field ∈ fields, field.absence.ofPosition? ≠ none) (fillSettings path fields) := by
  induction fields with
  | nil => exact .accepted nofun
  | cons field fields ih =>
      rw [fillSettings]
      cases found : field.absence.ofPosition? with
      | none => exact .refused fun each => each field List.mem_cons_self found
      | some value =>
          refine (ih.map ((field.key, value) :: ·)).of_iff ?_
          rw [List.forall_mem_cons, found]
          exact (and_iff_right (Option.some_ne_none value)).symm

/-- A field was met if the table has a member for it. -/
theorem isSome_lookup_readKnown {fields : List Field} {path : List String} {table : Table}
    {met : List (String × Json)} (read : readKnown fields path table = .ok met) {field : Field}
    (own : field ∈ fields) :
    (lookup field.key met).isSome = true ↔ field.key ∈ table.map (·.1) := by
  induction table generalizing met with
  | nil =>
      cases read
      simp [lookup]
  | cons member rest ih =>
      obtain ⟨key, setting⟩ := member
      rcases readKnown_cons_ok.mp read with ⟨unknown, others⟩ |
        ⟨known, value, later, -, -, others, rfl⟩
      · have apart : field.key ≠ key := by
          rintro rfl
          exact fieldOf_eq_none.mp unknown (List.mem_map_of_mem own)
        simp [ih others, apart]
      · by_cases same : key = field.key
        · simp [lookup, same]
        · simp [lookup, same, Ne.symm same, ih others]

/-- A table is read as a record if its members can be, and none is missing. -/
theorem judges_record {fields : List Field} {path : List String} {members : Table} {fit : Prop}
    (known : Judges fit (readKnown fields path members)) :
    Judges (fit ∧ ∀ field ∈ fields, field.absence.ofKey? = none → field.key ∈ members.map (·.1))
      (readKnown fields path members >>= fun met =>
        completeSettings path met fields >>= fun fields => pure (Json.object fields)) := by
  refine known.bind fun met read => ?_
  have completed := (judges_completeSettings path met fields).map Json.object
  refine completed.of_iff (forall₂_congr fun field own => ?_)
  rw [← isSome_lookup_readKnown read own]
  cases lookup field.key met with
  | none => simp
  | some value => simp

theorem judges_readScalarSetting {shape : Shape} (plain : ∀ inner, shape ≠ .optional inner)
    (path : List String) {setting : Setting} (noList : ∀ items, setting ≠ .list items)
    (noTable : ∀ members, setting ≠ .table members) :
    Judges (setting.Fits shape) (readScalarSetting shape path setting) := by
  unfold readScalarSetting
  split
  · exact .accepted .text
  · exact .accepted .flag
  · split
    case isTrue within => exact .accepted (.integer within.1 within.2)
    case isFalse beyond =>
      refine .refused fun fits => beyond ?_
      cases fits with
      | integer low high => exact ⟨low, high⟩
  case _ noText noFlag noInteger =>
    refine .refused fun fits => ?_
    cases fits with
    | text => exact noText _ rfl rfl
    | flag => exact noFlag _ rfl rfl
    | integer => exact noInteger _ _ _ _ rfl rfl
    | optional => exact plain _ rfl
    | keyed | named => exact noTable _ rfl
    | inOrder => exact noList _ rfl

theorem judges_readSetting_scalar {setting : Setting} (noList : ∀ items, setting ≠ .list items)
    (noTable : ∀ members, setting ≠ .table members) (shape : Shape) (path : List String) :
    Judges (setting.Fits shape) (readSetting shape path setting) := by
  rw [readSetting, ← Setting.fits_base]
  · exact judges_readScalarSetting (base_ne_optional shape) path noList noTable
  · exact noList
  · exact noTable

-- The recursion is on the setting, as in the readers; of a shape only its base is looked at, and
-- that is no optional one.
mutual

theorem judges_readSetting : (shape : Shape) → (path : List String) → (setting : Setting) →
    Judges (setting.Fits shape) (readSetting shape path setting)
  | shape, path, .list items => by
      rw [readSetting, ← Setting.fits_base]
      have plain := base_ne_optional shape
      generalize shape.base.2 = base at plain ⊢
      split
      case _ name fields keepsRest =>
        refine ((judges_readItems fields path 0 items).map _).of_iff ⟨?_, ?_⟩
        · exact fun each => .inOrder each.1 each.2
        · intro fits
          cases fits with
          | inOrder each filled => exact ⟨each, filled⟩
      case _ other =>
        refine .refused fun fits => ?_
        cases fits with
        | optional => exact plain _ rfl
        | inOrder => exact other _ _ _ rfl
  | shape, path, .table members => by
      rw [readSetting, ← Setting.fits_base]
      have plain := base_ne_optional shape
      generalize shape.base.2 = base at plain ⊢
      split
      case _ name fields keepsRest =>
        refine (judges_record (judges_readKnown fields path members)).of_iff ⟨?_, ?_⟩
        · exact fun each => .named each.1 each.2
        · intro fits
          cases fits with
          | named each given => exact ⟨each, given⟩
      case _ item =>
        refine ((judges_readAll item path members).map _).of_iff ⟨.keyed, ?_⟩
        intro fits
        cases fits with
        | keyed each => exact each
      case _ noRecord noKeyed =>
        refine .refused fun fits => ?_
        cases fits with
        | optional => exact plain _ rfl
        | keyed => exact noKeyed _ rfl
        | named => exact noRecord _ _ _ rfl
  | shape, path, .flag _ => judges_readSetting_scalar (by simp) (by simp) shape path
  | shape, path, .integer _ => judges_readSetting_scalar (by simp) (by simp) shape path
  | shape, path, .fraction => judges_readSetting_scalar (by simp) (by simp) shape path
  | shape, path, .text _ => judges_readSetting_scalar (by simp) (by simp) shape path

theorem judges_readItems : (fields : List Field) → (path : List String) → (position : Nat) →
    (items : List Setting) →
    Judges ((∀ pair ∈ fields.zip items, pair.2.Fits pair.1.shape) ∧
        ∀ field ∈ fields.drop items.length, field.absence.ofPosition? ≠ none)
      (readItems fields path position items)
  | [], _, _, _ => by
      rw [readItems]
      exact .accepted (by simp)
  | field :: fields, path, position, [] => by
      rw [readItems]
      · exact (judges_fillSettings path (field :: fields)).of_iff (by simp)
      · exact List.cons_ne_nil field fields
  | field :: fields, path, position, item :: items => by
      rw [readItems]
      have first := judges_readSetting field.shape (path ++ [toString position]) item
      have rest := judges_readItems fields path (position + 1) items
      refine (first.both rest _).of_iff ?_
      rw [List.zip_cons_cons, List.forall_mem_cons, List.length_cons, List.drop_succ_cons,
        and_assoc]

theorem judges_readKnown : (fields : List Field) → (path : List String) → (members : Table) →
    Judges (∀ member ∈ members, ∀ field ∈ fieldOf fields member.1, member.2.Fits field.shape)
      (readKnown fields path members)
  | _, _, [] => .accepted nofun
  | fields, path, (key, setting) :: rest => by
      have others := judges_readKnown fields path rest
      rw [readKnown]
      cases known : fieldOf fields key with
      | none =>
          refine others.of_iff ?_
          rw [List.forall_mem_cons, known]
          exact (and_iff_right nofun).symm
      | some field =>
          have first := judges_readSetting field.shape (path ++ [key]) setting
          refine (first.both others _).of_iff ?_
          rw [List.forall_mem_cons, known]
          exact and_congr_left' (by simp)

theorem judges_readAll : (item : Shape) → (path : List String) → (members : Table) →
    Judges (∀ member ∈ members, member.2.Fits item) (readAll item path members)
  | _, _, [] => .accepted nofun
  | item, path, (key, setting) :: rest => by
      rw [readAll]
      have first := judges_readSetting item (path ++ [key]) setting
      have others := judges_readAll item path rest
      refine (first.both others _).of_iff ?_
      rw [List.forall_mem_cons]

end

/-! ## Loading without a file -/

/-- What an environment sets, over what holds where nothing is configured. -/
def overridden (environment : Environment) : Table :=
  overTable (ofEnvironment environment) initial.settings

theorem judges_overridden (environment : Environment) :
    Judges ((Setting.table (overridden environment)).Fits shape)
      (ofSettings (overridden environment)) :=
  (judges_readSetting shape [] (.table (overridden environment))).map ofJson

theorem loadFrom_of_nothing {files : Files} {path : String} (nothing : ofFile files path = .ok [])
    (environment : Environment) :
    loadFrom files environment path = ofSettings (overridden environment) := by
  rw [loadFrom, nothing]
  rfl

theorem ofFile_of_missing {files : Files} {path : String}
    (missing : files.exists? (Path.ofText path) = false) : ofFile files path = .ok [] := by
  rw [ofFile, Files.read?_of_missing missing]

theorem ofFile_of_blank {files : Files} {path : String}
    (blank : files.read? (Path.ofText path) = some "") : ofFile files path = .ok [] := by
  have read : Toml.read? "" = some [] := rfl
  rw [ofFile, blank]
  dsimp only
  rw [read]

/-- Without a file what the environment sets counts as it does with an empty one if all of it fits.
If not, an empty file makes that an error, and without a file nothing of it counts. -/
theorem load_without_file {bare blank : Files} {home : String}
    (missing : bare.exists? (Path.ofText (filePath home)) = false)
    (empty : blank.read? (Path.ofText (filePath home)) = some "") (environment : Environment) :
    ((Setting.table (overridden environment)).Fits shape → ∃ config,
      load bare environment home = .ok config ∧ load blank environment home = .ok config) ∧
    (¬ (Setting.table (overridden environment)).Fits shape →
      load bare environment home = .ok initial ∧
      ∃ flaw path, load blank environment home = .error (.unreadable flaw path)) := by
  have without := loadFrom_of_nothing (ofFile_of_missing missing) environment
  have alongside := loadFrom_of_nothing (ofFile_of_blank empty) environment
  have there := Files.exists?_of_read? empty
  have judged := judges_overridden environment
  rw [load, load, without, alongside, missing, there]
  generalize ofSettings (overridden environment) = result at judged ⊢
  cases judged with
  | @accepted config fits => exact ⟨fun _ => ⟨config, rfl, rfl⟩, fun misfit => absurd fits misfit⟩
  | @refused flaw path misfit =>
      exact ⟨fun fits => absurd fits misfit, fun _ => ⟨rfl, flaw, path, rfl⟩⟩

theorem load_without_file_sample :
    let blank : Files := ⟨[(["home", ".config", "unified", "config.toml"], .text "")]⟩
    let environment := [("UNIFIED_DEFAULTS__USE_DB", "true")]
    Files.empty.exists? (Path.ofText (filePath "/home")) = false ∧
      blank.read? (Path.ofText (filePath "/home")) = some "" ∧
      (Setting.table (overridden environment)).Fits shape ∧
      ∃ config, load .empty environment "/home" = .ok config ∧
        load blank environment "/home" = .ok config := by
  intro blank environment
  have missing : Files.empty.exists? (Path.ofText (filePath "/home")) = false := by decide +kernel
  have empty : blank.read? (Path.ofText (filePath "/home")) = some "" := by decide +kernel
  have fits : (Setting.table (overridden environment)).Fits shape :=
    (judges_overridden environment).iff_isSome.mpr (by decide +kernel)
  exact ⟨missing, empty, fits, (load_without_file missing empty environment).1 fits⟩

/-- A time that is no number takes with it the wish to keep records. -/
theorem load_drops_overrides :
    let blank : Files := ⟨[(["home", ".config", "unified", "config.toml"], .text "")]⟩
    let environment := [("UNIFIED_DEFAULTS__TIMEOUT", "soon"), ("UNIFIED_DEFAULTS__USE_DB", "true")]
    load .empty environment "/home" = .ok initial ∧
      load blank environment "/home" =
        .error (.unreadable .wrongType ["defaults", "timeout"]) := by
  decide +kernel

end NetConsole.Config
