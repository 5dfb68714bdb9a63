import NetConsole.Config.Loading
import NetConsole.Proofs.Config.Layers
import NetConsole.Proofs.Config.Reloading
import Mathlib.Data.List.Forall2

/-!
# Variables that no field is read from

A variable may set something for which a configuration has no field, as those do that stand in for
options of the command line. The value of such a variable makes no difference to the configuration
that is loaded.
-/

set_option autoImplicit false

namespace NetConsole

/-! ## Environments -/

namespace Environment

/-- Environments that differ in the value of one variable at most. -/
def SameBut (name : String) (one two : Environment) : Prop :=
  List.Forall₂ (fun first second =>
    first.1 = second.1 ∧ (first.1 ≠ name → first.2 = second.2)) one two

variable {name : String} {one two : Environment}

theorem SameBut.isSome_find? (same : one.SameBut name two) (other : String) :
    (one.find? other).isSome = (two.find? other).isSome := by
  unfold find?
  induction same with
  | nil => rfl
  | cons entry _ ih =>
      rw [List.find?_cons, List.find?_cons, entry.1]
      split
      · rfl
      · exact ih

theorem SameBut.find? (same : one.SameBut name two) {other : String} (elsewhere : other ≠ name) :
    one.find? other = two.find? other := by
  unfold Environment.find?
  induction same with
  | nil => rfl
  | @cons first second _ _ entry _ ih =>
      rw [List.find?_cons, List.find?_cons, entry.1]
      cases here : second.1 == other with
      | false => exact ih
      | true =>
          have named : first.1 ≠ name := by
            rw [entry.1, eq_of_beq here]
            exact elsewhere
          exact congrArg some (entry.2 named)

end Environment

namespace Config

open Json

/-! ## Tables -/

namespace Table

/-- Tables that differ in what is found under one key at most. -/
structure SameBut (key : String) (one two : Table) : Prop where
  first : Ascending one
  second : Ascending two
  elsewhere : ∀ other, other ≠ key → one.find? other = two.find? other

variable {key : String} {one two lower below : Table}

theorem SameBut.refl (key : String) {table : Table} (ascending : Ascending table) :
    table.SameBut key table := ⟨ascending, ascending, fun _ _ => rfl⟩

theorem SameBut.over (upper : one.SameBut key two) (under : lower.SameBut key below) :
    SameBut key (overTable one lower) (overTable two below) where
  first := ascending_overTable _ under.first
  second := ascending_overTable _ under.second
  elsewhere := by
    intro other apart
    rw [find?_overTable upper.first under.first, find?_overTable upper.second under.second,
      upper.elsewhere other apart, under.elsewhere other apart]

theorem sameBut_singleton (key : String) (value other : Setting) :
    SameBut key [(key, value)] [(key, other)] where
  first := List.pairwise_singleton _ _
  second := List.pairwise_singleton _ _
  elsewhere := by
    intro other apart
    rw [find?_cons, find?_cons, if_neg apart.symm, if_neg apart.symm]

/-- A table without the member under a key. -/
def without (key : String) (table : Table) : Table := table.filter (·.1 ≠ key)

theorem SameBut.without_eq (same : one.SameBut key two) : one.without key = two.without key := by
  refine Ascending.ext (same.first.filter _) (same.second.filter _) fun entry => ?_
  rw [without, without, List.mem_filter, List.mem_filter]
  refine and_congr_left fun apart => ?_
  rw [← find?_eq_some same.first, ← find?_eq_some same.second,
    same.elsewhere entry.1 (by simpa using apart)]

end Table

/-! ## Readings -/

theorem readKnown_without {fields : List Field} {key : String} (unknown : fieldOf fields key = none)
    (path : List String) (table : Table) :
    readKnown fields path (table.without key) = readKnown fields path table := by
  induction table with
  | nil => rfl
  | cons member rest ih =>
      obtain ⟨own, setting⟩ := member
      by_cases here : own = key
      · have skipped : Table.without key ((own, setting) :: rest) = Table.without key rest :=
          List.filter_cons_of_neg (by simpa using here)
        rw [skipped, ih, readKnown, here, unknown]
      · have kept : Table.without key ((own, setting) :: rest) =
            (own, setting) :: Table.without key rest :=
          List.filter_cons_of_pos (by simpa using here)
        rw [kept, readKnown, readKnown, ih]

theorem ofSettings_sameBut {key : String} (unknown : fieldOf fields key = none) {one two : Table}
    (same : one.SameBut key two) : ofSettings one = ofSettings two := by
  have known : readKnown fields [] one = readKnown fields [] two := by
    rw [← readKnown_without unknown, same.without_eq, readKnown_without unknown]
  have base : shape.base.2 = shape := rfl
  unfold ofSettings
  rw [readSetting, readSetting, base, shape]
  dsimp only
  rw [known]

/-! ## Variables -/

/-- A variable that sets something, but nothing that a configuration has a field for. -/
def Unread (name : String) : Prop :=
  ∃ key rest, settingPath? name = some (key :: rest) ∧ fieldOf fields key = none

theorem unread_password : Unread "UNIFIED_PASSWORD" := ⟨"password", [], by decide, by decide⟩

/-- A table with what a variable sets. -/
def overlay (table : Table) (entry : String × String) : Table :=
  match settingPath? entry.1 with
  | none => table
  | some path =>
      match nest path (settingOfValue entry.2) with
      | .table members => overTable members table
      | _ => table

theorem ofEnvironment_eq_foldl (environment : Environment) :
    ofEnvironment environment = environment.foldl overlay [] := rfl

theorem overlay_sets {name key : String} {rest : List String}
    (sets : settingPath? name = some (key :: rest)) (table : Table) (value : String) :
    overlay table (name, value) = overTable [(key, nest rest (settingOfValue value))] table := by
  simp only [overlay, sets, nest]

theorem ofEnvironment_sameBut {name key : String} {rest : List String}
    (sets : settingPath? name = some (key :: rest)) {one two : Environment}
    (same : one.SameBut name two) : (ofEnvironment one).SameBut key (ofEnvironment two) := by
  rw [ofEnvironment_eq_foldl, ofEnvironment_eq_foldl]
  suffices steps : ∀ first second : Table, first.SameBut key second →
      Table.SameBut key (one.foldl overlay first) (two.foldl overlay second) from
    steps [] [] (.refl key List.Pairwise.nil)
  induction same with
  | nil => exact fun _ _ start => start
  | @cons entry other _ _ alike _ ih =>
      intro first second start
      refine ih _ _ ?_
      obtain ⟨own, value⟩ := entry
      obtain ⟨_, value'⟩ := other
      obtain ⟨rfl, elsewhere⟩ := alike
      by_cases here : own = name
      · rw [here, overlay_sets sets, overlay_sets sets]
        exact (Table.sameBut_singleton key _ _).over start
      · obtain rfl : value = value' := elsewhere here
        cases named : settingPath? own with
        | none => simpa only [overlay, named] using start
        | some path =>
            obtain ⟨_, _, rfl⟩ := exists_cons_of_settingPath? named
            rw [overlay_sets named, overlay_sets named]
            exact (Table.SameBut.refl key (List.pairwise_singleton _ _)).over start

theorem loadFrom_sameBut {name : String} (unread : Unread name) {one two : Environment}
    (same : one.SameBut name two) (files : Files) (path : String) :
    loadFrom files one path = loadFrom files two path := by
  obtain ⟨key, rest, sets, unknown⟩ := unread
  unfold loadFrom
  cases ofFile files path with
  | error cause => rfl
  | ok file =>
      have below := ascending_overTable file ascending_initial
      exact ofSettings_sameBut unknown ((ofEnvironment_sameBut sets same).over (.refl key below))

/-- A configuration does not depend on a variable that no field is read from. -/
theorem load_sameBut {name : String} (unread : Unread name) {one two : Environment}
    (same : one.SameBut name two) (files : Files) (home : String) :
    load files one home = load files two home := by
  rw [load, load, loadFrom_sameBut unread same]

end Config

end NetConsole
