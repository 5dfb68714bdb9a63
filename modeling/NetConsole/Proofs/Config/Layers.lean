import NetConsole.Config.Extraction
import NetConsole.Config.Variables
import NetConsole.Proofs.Ascending

/-!
# Tables of settings and their layers

A table is determined by what is found under each key. A layer over another one is found key by key:
its own setting, put together with what it covers. The keys of the lower layer keep their order
whatever covers them, so only tables that cover something else than a table bring an order of their
own, and those in an environment are ascending.
-/

set_option autoImplicit false

namespace NetConsole.Config

/-! ## Tables -/

namespace Table

theorem put_eq_put (key : String) (value : Setting) (table : Table) :
    Table.put key value table = Ascending.put key value table := by
  induction table with
  | nil => rfl
  | cons member rest ih => rw [Table.put, Ascending.put, ih]

theorem ascending_put {table : Table} (ascending : Ascending table) (key : String)
    (value : Setting) : Ascending (table.put key value) := by
  rw [put_eq_put]
  exact ascending.put_ascending key value

theorem find?_cons (own key : String) (value : Setting) (rest : Table) :
    Table.find? ((own, value) :: rest) key = if own = key then some value else rest.find? key := by
  by_cases same : own = key
  · simp [find?, same]
  · simp [find?, same]

theorem find?_of_above {table : Table} {key : String} (above : ∀ member ∈ table, key < member.1) :
    table.find? key = none := by
  refine Option.map_eq_none_iff.mpr (List.find?_eq_none.mpr fun other member => ?_)
  simpa using (above other member).ne'

theorem find?_put {table : Table} (ascending : Ascending table) (key : String) (value : Setting)
    (other : String) :
    (table.put key value).find? other = if other = key then some value else table.find? other := by
  rw [put_eq_put, find?, ascending.find?_put]
  split
  · rfl
  · rfl

theorem ascending_ofMembers (members : List (String × Setting)) :
    Ascending (Table.ofMembers members) :=
  List.foldlRecOn members _ List.Pairwise.nil fun _ ascending member _ =>
    ascending_put ascending member.1 member.2

theorem find?_eq_some {table : Table} (ascending : Ascending table) {key : String}
    {value : Setting} : table.find? key = some value ↔ (key, value) ∈ table := by
  rw [← ascending.find?_eq_some, find?, Option.map_eq_some_iff]
  constructor
  · rintro ⟨⟨other, held⟩, found, rfl⟩
    have same : other = key := by simpa using List.find?_some found
    rw [found, same]
  · exact fun found => ⟨_, found, rfl⟩

/-- A table is determined by what is found under each key. -/
theorem ext {one two : Table} (first : Ascending one) (second : Ascending two)
    (same : ∀ key, one.find? key = two.find? key) : one = two := by
  refine first.ext second fun entry => ?_
  rw [← find?_eq_some first, ← find?_eq_some second, same]

end Table

/-! ## Layers -/

/-- A setting over what it covers, if it covers anything. -/
def Setting.covering (value : Setting) : Option Setting → Setting
  | some below => value.above below
  | none => value

theorem overTable_cons (key : String) (value : Setting) (rest lower : Table) :
    overTable ((key, value) :: rest) lower =
      overTable rest (lower.put key (value.covering (lower.find? key))) := by
  rw [overTable]
  cases lower.find? key <;> rfl

theorem ascending_overTable (upper : Table) {lower : Table} (ascending : Ascending lower) :
    Ascending (overTable upper lower) := by
  induction upper generalizing lower with
  | nil => simpa [overTable] using ascending
  | cons member rest ih =>
      rw [overTable_cons]
      exact ih (Table.ascending_put ascending _ _)

theorem find?_overTable {upper lower : Table} (first : Ascending upper) (second : Ascending lower)
    (key : String) : Table.find? (overTable upper lower) key =
      ((upper.find? key).map (·.covering (lower.find? key))).or (lower.find? key) := by
  induction upper generalizing lower with
  | nil => simp [overTable, Table.find?]
  | cons member rest ih =>
      obtain ⟨own, value⟩ := member
      obtain ⟨above, ascending⟩ := List.pairwise_cons.mp first
      rw [overTable_cons, ih ascending (Table.ascending_put second _ _), Table.find?_put second]
      rw [Table.find?_cons]
      by_cases same : own = key
      · subst same
        have later : Table.find? rest own = none := Table.find?_of_above above
        simp [later]
      · simp [same, Ne.symm same]

theorem overTable_nil {upper : Table} (ascending : Ascending upper) :
    overTable upper [] = upper := by
  refine Table.ext (ascending_overTable upper List.Pairwise.nil) ascending fun key => ?_
  rw [find?_overTable ascending List.Pairwise.nil]
  cases upper.find? key <;> rfl

/-! ## Order below the top -/

/-- A table among settings has ascending keys. -/
def Setting.Ordered : Setting → Prop
  | .table members => Ascending members
  | _ => True

theorem Setting.Ordered.above {upper lower : Setting} (first : upper.Ordered)
    (second : lower.Ordered) : (upper.above lower).Ordered := by
  unfold Setting.above
  split
  · exact ascending_overTable _ second
  · exact first

theorem Setting.Ordered.covering {upper : Setting} (first : upper.Ordered) {lower : Option Setting}
    (second : ∀ below ∈ lower, below.Ordered) : (upper.covering lower).Ordered := by
  cases lower with
  | none => exact first
  | some below => exact first.above (second below rfl)

theorem Setting.ordered_above_table (upper : Setting) {lower : Table}
    (ascending : Ascending lower) : (upper.above (.table lower)).Ordered := by
  cases upper with
  | table members => exact ascending_overTable members ascending
  | flag | integer | fraction | text | list => trivial

/-! ## Environments -/

theorem ordered_bareSetting (cs : List Char) : (bareSetting cs).Ordered := by
  unfold bareSetting
  dsimp only
  split
  · trivial
  · split <;> trivial

theorem ordered_of_parseSetting {fuel : Nat} {cs rest : List Char} {setting : Setting}
    (parsed : parseSetting fuel cs = some (setting, rest)) : setting.Ordered := by
  cases fuel with
  | zero => cases parsed
  | succ fuel =>
      rw [parseSetting] at parsed
      split at parsed
      · cases parsed
        trivial
      · cases parsed
        trivial
      split at parsed
      · obtain ⟨_, read, same⟩ := Option.bind_eq_some_iff.mp parsed
        obtain ⟨⟨members, after⟩, -, rfl⟩ := Option.map_eq_some_iff.mp read
        cases same
        exact Table.ascending_ofMembers members
      · obtain ⟨_, read, same⟩ := Option.bind_eq_some_iff.mp parsed
        obtain ⟨⟨items, after⟩, -, rfl⟩ := Option.map_eq_some_iff.mp read
        cases same
        trivial
      · obtain ⟨_, read, same⟩ := Option.bind_eq_some_iff.mp parsed
        obtain ⟨⟨chars, after⟩, -, rfl⟩ := Option.map_eq_some_iff.mp read
        cases same
        trivial
      · split at parsed
        · cases parsed
          trivial
        · cases parsed
      · cases parsed
        exact ordered_bareSetting _

theorem ordered_settingOfValue (value : String) : (settingOfValue value).Ordered := by
  unfold settingOfValue
  dsimp only
  split
  case _ parsed => exact ordered_of_parseSetting parsed
  · trivial

theorem ordered_nest (path : List String) {setting : Setting} (ordered : setting.Ordered) :
    (nest path setting).Ordered := by
  cases path with
  | nil => exact ordered
  | cons key rest => exact List.pairwise_singleton _ _

theorem splitName_ne_nil (cs : List Char) : splitName cs ≠ [] := by
  fun_cases splitName cs <;> simp_all

/-- A variable that is a setting sets something under a key. -/
theorem exists_cons_of_settingPath? {name : String} {path : List String}
    (named : settingPath? name = some path) : ∃ key rest, path = key :: rest := by
  unfold settingPath? at named
  dsimp only at named
  split at named
  · cases named
  split at named
  · cases named
  cases named
  obtain ⟨first, more, shape⟩ := List.exists_cons_of_ne_nil (splitName_ne_nil _)
  rw [shape]
  exact ⟨_, _, rfl⟩

/-- The keys of a table ascend, and so do those of the tables right below it. -/
structure Table.Ordered (table : Table) : Prop where
  ascending : Ascending table
  inside : ∀ key, ∀ setting ∈ table.find? key, setting.Ordered

theorem Table.Ordered.over {lower : Table} (ordered : lower.Ordered) (key : String)
    {value : Setting} (own : value.Ordered) : Table.Ordered (overTable [(key, value)] lower) where
  ascending := ascending_overTable _ ordered.ascending
  inside := by
    intro other setting found
    rw [find?_overTable (List.pairwise_singleton _ _) ordered.ascending, find?_cons] at found
    by_cases same : key = other
    · subst same
      simp only [if_true, Option.map_some, Option.some_or, Option.mem_def,
        Option.some.injEq] at found
      subst found
      exact own.covering (ordered.inside key)
    · simp only [if_neg same] at found
      exact ordered.inside other setting found

theorem ofEnvironment_ordered (environment : Environment) :
    (ofEnvironment environment).Ordered := by
  have empty : Table.Ordered [] := ⟨List.Pairwise.nil, nofun⟩
  refine List.foldlRecOn environment _ empty fun table ordered entry _ => ?_
  obtain ⟨name, value⟩ := entry
  dsimp only
  cases named : settingPath? name with
  | none => exact ordered
  | some path =>
      obtain ⟨key, rest, rfl⟩ := exists_cons_of_settingPath? named
      exact ordered.over key (ordered_nest rest (ordered_settingOfValue value))

theorem ofEnvironment_eq_nil {environment : Environment}
    (quiet : ∀ entry ∈ environment, settingPath? entry.1 = none) :
    ofEnvironment environment = [] := by
  unfold ofEnvironment
  induction environment with
  | nil => rfl
  | cons entry rest ih =>
      obtain ⟨here, later⟩ := List.forall_mem_cons.mp quiet
      simpa [here] using ih later

end NetConsole.Config
