import NetConsole.Proofs.Config.Layers
import NetConsole.Proofs.Records.Fields

/-!
# What is read of a table of settings

A record is read from a table field by field: what is found under the key of a field, read by its
shape, or what its absence means. A table whose members all have one shape is read member by member.
Both are stated as what has to be so for a value to come out.
-/

set_option autoImplicit false

namespace NetConsole.Config

open Json Stepwise

/-- A member of a record for one of its fields, read from a table at a path. -/
inductive Extracts (path : List String) (table : Table) : Field → String × Json → Prop where
  | found {field : Field} {setting : Setting} {value : Json} :
      table.find? field.key = some setting →
      readSetting field.shape (path ++ [field.key]) setting = .ok value →
      Extracts path table field (field.key, value)
  | absent {field : Field} {value : Json} : table.find? field.key = none →
      field.absence.ofKey? = some value → Extracts path table field (field.key, value)

/-! ## Known members -/

theorem readKnown_cons_ok {fields : List Field} {path : List String} {key : String}
    {setting : Setting} {rest : Table} {met : List (String × Json)} :
    readKnown fields path ((key, setting) :: rest) = .ok met ↔
      (fieldOf fields key = none ∧ readKnown fields path rest = .ok met) ∨
      ∃ field value later, fieldOf fields key = some field ∧
        readSetting field.shape (path ++ [key]) setting = .ok value ∧
        readKnown fields path rest = .ok later ∧ met = (key, value) :: later := by
  rw [readKnown]
  cases known : fieldOf fields key with
  | none => simp
  | some field =>
      simp only [bind_eq_ok, pure, Except.pure]
      constructor
      · rintro ⟨value, read, later, others, done⟩
        cases done
        exact .inr ⟨field, value, later, rfl, read, others, rfl⟩
      · rintro (⟨⟨⟩, -⟩ | ⟨_, value, later, ⟨⟩, read, others, rfl⟩)
        exact ⟨value, read, later, others, rfl⟩

/-- What was met under the key of a field is what is found there, read by the shape of the field. -/
theorem lookup_readKnown {fields : List Field} {path : List String} {table : Table}
    (ascending : Ascending table) {met : List (String × Json)}
    (read : readKnown fields path table = .ok met) {field : Field}
    (known : fieldOf fields field.key = some field) :
    (table.find? field.key = none ∧ lookup field.key met = none) ∨
      ∃ setting value, table.find? field.key = some setting ∧
        readSetting field.shape (path ++ [field.key]) setting = .ok value ∧
        lookup field.key met = some value := by
  induction table generalizing met with
  | nil =>
      cases read
      exact .inl ⟨rfl, rfl⟩
  | cons member rest ih =>
      obtain ⟨key, setting⟩ := member
      obtain ⟨above, restAscending⟩ := List.pairwise_cons.mp ascending
      rw [Table.find?_cons]
      rcases readKnown_cons_ok.mp read with ⟨unknown, others⟩ |
        ⟨own, first, later, ofKey, readFirst, others, rfl⟩
      · have apart : key ≠ field.key := by
          rintro rfl
          rw [known] at unknown
          cases unknown
        rw [if_neg apart]
        exact ih restAscending others
      · by_cases same : key = field.key
        · subst same
          cases known.symm.trans ofKey
          have nothing : lookup field.key later = none := by
            rcases ih restAscending others with ⟨-, nothing⟩ | ⟨_, _, there, -, -⟩
            · exact nothing
            · rw [Table.find?_of_above above] at there
              cases there
          exact .inr ⟨setting, first, if_pos rfl, readFirst, by simp [lookup, nothing]⟩
        · rw [lookup, if_neg same, if_neg same, Option.or_none]
          exact ih restAscending others

theorem readKnown_total {fields : List Field} {path : List String} {table : Table}
    (each : ∀ key setting field, (key, setting) ∈ table → fieldOf fields key = some field →
      ∃ value, readSetting field.shape (path ++ [key]) setting = .ok value) :
    ∃ met, readKnown fields path table = .ok met := by
  induction table with
  | nil => exact ⟨[], rfl⟩
  | cons member rest ih =>
      obtain ⟨key, setting⟩ := member
      obtain ⟨later, others⟩ := ih fun key setting field member known =>
        each key setting field (List.mem_cons_of_mem _ member) known
      cases known : fieldOf fields key with
      | none => exact ⟨later, readKnown_cons_ok.mpr (.inl ⟨known, others⟩)⟩
      | some field =>
          obtain ⟨value, read⟩ := each key setting field List.mem_cons_self known
          exact ⟨_, readKnown_cons_ok.mpr (.inr ⟨field, value, later, known, read, others, rfl⟩)⟩

/-! ## Fields -/

theorem completeSettings_cons_none {field : Field} {met : List (String × Json)}
    (missing : (lookup field.key met).or field.absence.ofKey? = none) (path : List String)
    (fields : List Field) :
    completeSettings path met (field :: fields) = flawed .missingField path := by
  obtain ⟨unmet, without⟩ := Option.or_eq_none_iff.mp missing
  rw [completeSettings, unmet, without]
  rfl

theorem completeSettings_cons_some {field : Field} {met : List (String × Json)} {value : Json}
    (found : (lookup field.key met).or field.absence.ofKey? = some value) (path : List String)
    (fields : List Field) : completeSettings path met (field :: fields) =
      completeSettings path met fields >>= fun rest => pure ((field.key, value) :: rest) := by
  rw [completeSettings]
  rcases Option.or_eq_some_iff.mp found with given | ⟨unmet, default⟩
  · rw [given]
    rfl
  · rw [unmet, default]
    rfl

/-- A record is completed with what was met for each field, or else with what its absence means. -/
theorem completeSettings_eq_ok {path : List String} {met members : List (String × Json)}
    {fields : List Field} : completeSettings path met fields = .ok members ↔
      List.Forall₂ (fun field member => member.1 = field.key ∧
        (lookup field.key met).or field.absence.ofKey? = some member.2) fields members := by
  induction fields generalizing members with
  | nil =>
      rw [completeSettings, List.forall₂_nil_left_iff]
      constructor
      · intro done
        cases done
        rfl
      · rintro rfl
        rfl
  | cons field fields ih =>
      rw [List.forall₂_cons_left_iff]
      cases found : (lookup field.key met).or field.absence.ofKey? with
      | none =>
          rw [completeSettings_cons_none found]
          simp [flawed]
      | some value =>
          rw [completeSettings_cons_some found]
          simp only [bind_eq_ok, ih, pure, Except.pure]
          constructor
          · rintro ⟨rest, later, done⟩
            cases done
            exact ⟨_, rest, ⟨rfl, rfl⟩, later, rfl⟩
          · rintro ⟨⟨_, _⟩, rest, ⟨rfl, same⟩, later, rfl⟩
            cases same
            exact ⟨rest, later, rfl⟩

theorem extracts_iff {fields : List Field} {path : List String} {table : Table}
    (ascending : Ascending table) {met : List (String × Json)}
    (read : readKnown fields path table = .ok met) {field : Field}
    (known : fieldOf fields field.key = some field) {member : String × Json} :
    Extracts path table field member ↔
      member.1 = field.key ∧ (lookup field.key met).or field.absence.ofKey? = some member.2 := by
  obtain ⟨key, value⟩ := member
  rcases lookup_readKnown ascending read known with ⟨missing, nothing⟩ |
    ⟨setting, held, there, readIt, found⟩
  · rw [nothing, Option.none_or]
    constructor
    · intro extracts
      cases extracts with
      | found there =>
          rw [missing] at there
          cases there
      | absent _ default => exact ⟨rfl, default⟩
    · rintro ⟨rfl, default⟩
      exact .absent missing default
  · rw [found, Option.some_or]
    constructor
    · intro extracts
      cases extracts with
      | found alsoThere alsoRead =>
          rw [there] at alsoThere
          cases alsoThere
          cases readIt.symm.trans alsoRead
          exact ⟨rfl, rfl⟩
      | absent missing =>
          rw [there] at missing
          cases missing
    · rintro ⟨rfl, same⟩
      cases same
      exact .found there readIt

theorem readSetting_record {name : String} {fields : List Field} {keepsRest : Bool}
    (distinct : (fields.map Field.key).Nodup) {path : List String} {table : Table}
    (ascending : Ascending table) {value : Json} :
    readSetting (.record name fields keepsRest) path (.table table) = .ok value ↔
      ∃ members, value = .object members ∧ List.Forall₂ (Extracts path table) fields members := by
  rw [readSetting]
  simp only [Shape.base, bind_eq_ok, completeSettings_eq_ok, pure, Except.pure]
  have own (field : Field) (member : field ∈ fields) : fieldOf fields field.key = some field :=
    fieldOf_eq_some distinct member
  constructor
  · rintro ⟨met, read, members, completed, done⟩
    cases done
    refine ⟨members, rfl, ?_⟩
    have each := (List.forall₂_and_left _ _).mpr ⟨own, completed⟩
    exact each.imp fun _ _ given => (extracts_iff ascending read given.1).mpr given.2
  · rintro ⟨members, rfl, extracts⟩
    obtain ⟨met, read⟩ : ∃ met, readKnown fields path table = .ok met := by
      refine readKnown_total fun key setting field found known => ?_
      obtain ⟨member, rfl⟩ := mem_of_fieldOf known
      obtain ⟨other, -, extracted⟩ := exists_of_mem_forall₂ extracts.flip member
      cases extracted with
      | found there readIt =>
          rw [(Table.find?_eq_some ascending).mpr found] at there
          cases there
          exact ⟨_, readIt⟩
      | absent missing => 
          rw [(Table.find?_eq_some ascending).mpr found] at missing
          cases missing
    refine ⟨met, read, members, ?_, rfl⟩
    have each := (List.forall₂_and_left _ _).mpr ⟨own, extracts⟩
    exact each.imp fun _ _ given => (extracts_iff ascending read given.1).mp given.2

/-! ## Members of one shape -/

theorem readAll_eq_ok {shape : Shape} {path : List String} {table : Table}
    {values : List (String × Json)} : readAll shape path table = .ok values ↔
      List.Forall₂ (fun member value => value.1 = member.1 ∧
        readSetting shape (path ++ [member.1]) member.2 = .ok value.2) table values := by
  induction table generalizing values with
  | nil =>
      rw [readAll, List.forall₂_nil_left_iff]
      constructor
      · intro done
        cases done
        rfl
      · rintro rfl
        rfl
  | cons member rest ih =>
      obtain ⟨key, setting⟩ := member
      simp only [readAll, bind_eq_ok, ih, List.forall₂_cons_left_iff]
      constructor
      · rintro ⟨value, first, others, later, done⟩
        cases done
        exact ⟨_, others, ⟨rfl, first⟩, later, rfl⟩
      · rintro ⟨⟨_, value⟩, others, ⟨rfl, first⟩, later, rfl⟩
        exact ⟨value, first, others, later, rfl⟩

theorem readSetting_keyed {item : Shape} {path : List String} {setting : Setting} {value : Json} :
    readSetting (.keyed item) path setting = .ok value ↔
      ∃ table values, setting = .table table ∧ readAll item path table = .ok values ∧
        value = .object values := by
  cases setting with
  | table members =>
      rw [readSetting]
      simp only [Shape.base]
      constructor
      · intro read
        obtain ⟨values, each, rfl⟩ := map_eq_ok read
        exact ⟨members, values, rfl, each, rfl⟩
      · rintro ⟨_, values, ⟨⟩, each, rfl⟩
        rw [each]
        rfl
  | list items =>
      rw [readSetting]
      simp [Shape.base, flawed]
  | flag | integer | fraction | text => simp [readSetting, Shape.base, readScalarSetting, flawed]

end NetConsole.Config
