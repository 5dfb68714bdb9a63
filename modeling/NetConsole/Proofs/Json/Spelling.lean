import NetConsole.Json.Shape
import NetConsole.Proofs.Ascending
import NetConsole.Proofs.Json.Numbers
import Mathlib.Data.List.Forall2

/-!
# Trees that spell a value

What a tree says of a value when nothing is wrong with it: everything is closed, every string and
number can be read. Reading such a tree gives the value with its members sorted, as long as it is
not nested too deeply.
-/

set_option autoImplicit false

namespace NetConsole.Json

/-! ## Values by their parts -/

mutual

private theorem forall_of_parts {holds : Json → Prop} (null : holds .null)
    (bool : ∀ b, holds (.bool b)) (number : ∀ n, holds (.number n)) (string : ∀ s, holds (.string s))
    (array : ∀ items, (∀ item ∈ items, holds item) → holds (.array items))
    (object : ∀ members, (∀ member ∈ members, holds member.2) → holds (.object members)) :
    ∀ value, holds value
  | .null => null
  | .bool b => bool b
  | .number n => number n
  | .string s => string s
  | .array items => array items (forall_items null bool number string array object items)
  | .object members => object members (forall_members null bool number string array object members)

private theorem forall_items {holds : Json → Prop} (null : holds .null)
    (bool : ∀ b, holds (.bool b)) (number : ∀ n, holds (.number n)) (string : ∀ s, holds (.string s))
    (array : ∀ items, (∀ item ∈ items, holds item) → holds (.array items))
    (object : ∀ members, (∀ member ∈ members, holds member.2) → holds (.object members)) :
    ∀ (items : List Json), ∀ item ∈ items, holds item
  | [] => nofun
  | head :: rest => List.forall_mem_cons.mpr
      ⟨forall_of_parts null bool number string array object head,
        forall_items null bool number string array object rest⟩

private theorem forall_members {holds : Json → Prop} (null : holds .null)
    (bool : ∀ b, holds (.bool b)) (number : ∀ n, holds (.number n)) (string : ∀ s, holds (.string s))
    (array : ∀ items, (∀ item ∈ items, holds item) → holds (.array items))
    (object : ∀ members, (∀ member ∈ members, holds member.2) → holds (.object members)) :
    ∀ (members : List (String × Json)), ∀ member ∈ members, holds member.2
  | [] => nofun
  | (_, value) :: rest => List.forall_mem_cons.mpr
      ⟨forall_of_parts null bool number string array object value,
        forall_members null bool number string array object rest⟩

end

/-- Induction over values: what holds of the items of an array and of the values of an object's
members holds of the whole. -/
theorem induction {holds : Json → Prop} (null : holds .null)
    (bool : ∀ b, holds (.bool b)) (number : ∀ n, holds (.number n)) (string : ∀ s, holds (.string s))
    (array : ∀ items, (∀ item ∈ items, holds item) → holds (.array items))
    (object : ∀ members, (∀ member ∈ members, holds member.2) → holds (.object members))
    (value : Json) : holds value :=
  forall_of_parts null bool number string array object value

mutual

/-- How many arrays and objects are open at once in a value. -/
def depth : Json → Nat
  | .array items => itemsDepth items + 1
  | .object members => membersDepth members + 1
  | _ => 0

/-- The depth of the deepest item. -/
def itemsDepth : List Json → Nat
  | [] => 0
  | item :: rest => max (depth item) (itemsDepth rest)

/-- The depth of the deepest member. -/
def membersDepth : List (String × Json) → Nat
  | [] => 0
  | (_, value) :: rest => max (depth value) (membersDepth rest)

end

theorem itemsDepth_le {items : List Json} {room : Nat} :
    itemsDepth items ≤ room ↔ ∀ item ∈ items, item.depth ≤ room := by
  induction items with
  | nil => simp [itemsDepth]
  | cons item rest ih => simp [itemsDepth, ih]

theorem membersDepth_le {members : List (String × Json)} {room : Nat} :
    membersDepth members ≤ room ↔ ∀ member ∈ members, member.2.depth ≤ room := by
  induction members with
  | nil => simp [membersDepth]
  | cons member rest ih => simp [membersDepth, ih]

/-! ## Spelling -/

/-- A key spells a text. If the text is a word, the key can be read as that number as well. -/
structure Key.Spells (key : Key) (name : String) : Prop where
  text : key.text = { read := .ok name, skip := none }
  numeral : ∀ n : Nat, name = toString n → IsWord n →
    key.numeral = .ok (.integer n) ∧ key.closed = true

/-- A tree spells a value: nothing in it is broken, and its parts spell the parts of the value. -/
inductive Tree.Spells : Tree → Json → Prop where
  | null : Tree.Spells .null .null
  | bool (b : Bool) : Tree.Spells (.bool b) (.bool b)
  | number (n : Number) : Tree.Spells (.number { read := .ok n, skip := none }) (.number n)
  | string (s : String) : Tree.Spells (.string { read := .ok s, skip := none }) (.string s)
  | array {trees : List Tree} {items : List Json} :
      List.Forall₂ Tree.Spells trees items → Tree.Spells (.array trees .closed) (.array items)
  | object {trees : List (Key × Tree)} {members : List (String × Json)} :
      List.Forall₂ Key.Spells (trees.map (·.1)) (members.map (·.1)) →
      List.Forall₂ Tree.Spells (trees.map (·.2)) (members.map (·.2)) →
      Tree.Spells (.object trees .closed) (.object members)

/-- The tree of a member spells a member. -/
def SpellsMember (tree : Key × Tree) (member : String × Json) : Prop :=
  tree.1.Spells member.1 ∧ tree.2.Spells member.2

theorem Tree.spells_object {trees : List (Key × Tree)} {members : List (String × Json)} :
    Tree.Spells (.object trees .closed) (.object members) ↔
      List.Forall₂ SpellsMember trees members := by
  constructor
  · intro spells
    cases spells with
    | object keys values =>
        induction trees generalizing members with
        | nil =>
            cases members with
            | nil => exact .nil
            | cons member rest => cases keys
        | cons tree trees ih =>
            cases members with
            | nil => cases keys
            | cons member rest =>
                cases keys with
                | cons key keys =>
                    cases values with
                    | cons value values => exact .cons ⟨key, value⟩ (ih keys values)
  · intro each
    constructor
    · induction each with
      | nil => exact .nil
      | cons one _ ih => exact .cons one.1 ih
    · induction each with
      | nil => exact .nil
      | cons one _ ih => exact .cons one.2 ih

/-! ## Reading -/

namespace Tree

private theorem values_of_spells {room : Nat} {trees : List Tree} {items : List Json}
    (each : List.Forall₂ Spells trees items)
    (reads : ∀ item ∈ items, ∀ tree, Spells tree item → tree.value room = .ok item.sorted) :
    values room trees = .ok (sortedItems items) := by
  induction each with
  | nil => rfl
  | cons one _ ih =>
      obtain ⟨first, rest⟩ := List.forall_mem_cons.mp reads
      rw [values, first _ one, ih rest]
      rfl

private theorem memberValues_of_spells {room : Nat} {trees : List (Key × Tree)}
    {members : List (String × Json)} (each : List.Forall₂ SpellsMember trees members)
    (reads : ∀ member ∈ members, ∀ tree, Spells tree member.2 →
      tree.value room = .ok member.2.sorted) :
    memberValues room trees = .ok (sortedMembers members) := by
  induction each with
  | nil => rfl
  | @cons tree member trees members one _ ih =>
      obtain ⟨first, rest⟩ := List.forall_mem_cons.mp reads
      obtain ⟨key, tree⟩ := tree
      rw [memberValues, one.1.text, first tree one.2, ih rest]
      rfl

/-- A tree that spells a value is read as that value with its members sorted, wherever there is
room for its depth. -/
theorem value_of_spells {tree : Tree} {value : Json} (spells : Spells tree value) {room : Nat}
    (deep : value.depth ≤ room) : tree.value room = .ok value.sorted := by
  induction value using Json.induction generalizing tree room with
  | null | bool | number | string =>
      cases spells
      rfl
  | array items ih =>
      cases spells with
      | array each =>
          obtain ⟨room, rfl⟩ : ∃ inner, room = inner + 1 :=
            ⟨room - 1, by rw [depth] at deep; omega⟩
          have within : ∀ item ∈ items, item.depth ≤ room :=
            itemsDepth_le.mp (Nat.le_of_succ_le_succ deep)
          have reads := values_of_spells each fun item member tree spells =>
            ih item member spells (within item member)
          simp only [Tree.value, enter, bind, Except.bind, reads]
          rfl
  | object members ih =>
      cases spells with
      | object keys values =>
          obtain ⟨room, rfl⟩ : ∃ inner, room = inner + 1 :=
            ⟨room - 1, by rw [depth] at deep; omega⟩
          have within : ∀ member ∈ members, member.2.depth ≤ room :=
            membersDepth_le.mp (Nat.le_of_succ_le_succ deep)
          have each := spells_object.mp (.object keys values)
          have reads := memberValues_of_spells each fun member isMember tree spells =>
            ih member isMember spells (within member isMember)
          simp only [Tree.value, enter, bind, Except.bind, reads]
          rfl

end Tree

end NetConsole.Json
