import NetConsole.Proofs.Json.Sorted
import NetConsole.Proofs.Stepwise

/-!
# What a reader of free values returns

Whatever the text, a value that is read of it is sorted, is nested no deeper than there was room
for, and has no numbers but those that the text has.
-/

set_option autoImplicit false

namespace NetConsole.Json

open Stepwise

namespace Tree

/-! ## Trees by their parts -/

mutual

private theorem forall_of_parts {holds : Tree → Prop} (null : holds .null)
    (bool : ∀ b, holds (.bool b)) (number : ∀ scan, holds (.number scan))
    (string : ∀ scan, holds (.string scan))
    (array : ∀ items close, (∀ item ∈ items, holds item) → holds (.array items close))
    (object : ∀ members close, (∀ member ∈ members, holds member.2) →
      holds (.object members close))
    (broken : ∀ reason, holds (.broken reason)) : ∀ tree, holds tree
  | .null => null
  | .bool b => bool b
  | .number scan => number scan
  | .string scan => string scan
  | .array items close =>
      array items close (forall_items null bool number string array object broken items)
  | .object members close =>
      object members close (forall_members null bool number string array object broken members)
  | .broken reason => broken reason

private theorem forall_items {holds : Tree → Prop} (null : holds .null)
    (bool : ∀ b, holds (.bool b)) (number : ∀ scan, holds (.number scan))
    (string : ∀ scan, holds (.string scan))
    (array : ∀ items close, (∀ item ∈ items, holds item) → holds (.array items close))
    (object : ∀ members close, (∀ member ∈ members, holds member.2) →
      holds (.object members close))
    (broken : ∀ reason, holds (.broken reason)) :
    ∀ (items : List Tree), ∀ item ∈ items, holds item
  | [] => fun _ member => absurd member List.not_mem_nil
  | head :: rest => List.forall_mem_cons.mpr
      ⟨forall_of_parts null bool number string array object broken head,
        forall_items null bool number string array object broken rest⟩

private theorem forall_members {holds : Tree → Prop} (null : holds .null)
    (bool : ∀ b, holds (.bool b)) (number : ∀ scan, holds (.number scan))
    (string : ∀ scan, holds (.string scan))
    (array : ∀ items close, (∀ item ∈ items, holds item) → holds (.array items close))
    (object : ∀ members close, (∀ member ∈ members, holds member.2) →
      holds (.object members close))
    (broken : ∀ reason, holds (.broken reason)) :
    ∀ (members : List (Key × Tree)), ∀ member ∈ members, holds member.2
  | [] => fun _ member => absurd member List.not_mem_nil
  | (_, tree) :: rest => List.forall_mem_cons.mpr
      ⟨forall_of_parts null bool number string array object broken tree,
        forall_members null bool number string array object broken rest⟩

end

/-- Induction over trees: what holds of the items of an array and of the members of an object holds
of the whole. -/
theorem induction {holds : Tree → Prop} (null : holds .null) (bool : ∀ b, holds (.bool b))
    (number : ∀ scan, holds (.number scan)) (string : ∀ scan, holds (.string scan))
    (array : ∀ items close, (∀ item ∈ items, holds item) → holds (.array items close))
    (object : ∀ members close, (∀ member ∈ members, holds member.2) →
      holds (.object members close))
    (broken : ∀ reason, holds (.broken reason)) (tree : Tree) : holds tree :=
  forall_of_parts null bool number string array object broken tree

/-! ## Items and members -/

theorem enter_eq_ok {room inner : Nat} : enter room = .ok inner ↔ room = inner + 1 := by
  cases room with
  | zero => simp [enter]
  | succ room =>
      constructor
      · intro same
        cases same
        rfl
      · intro same
        cases same
        rfl

theorem mem_of_values {room : Nat} {trees : List Tree} {items : List Json}
    (read : values room trees = .ok items) :
    ∀ item ∈ items, ∃ tree ∈ trees, tree.value room = .ok item := by
  induction trees generalizing items with
  | nil =>
      cases read
      exact fun _ member => absurd member List.not_mem_nil
  | cons tree trees ih =>
      rw [values] at read
      obtain ⟨item, first, read⟩ := bind_eq_ok.mp read
      obtain ⟨rest, others, read⟩ := bind_eq_ok.mp read
      cases read
      refine List.forall_mem_cons.mpr ⟨⟨tree, List.mem_cons_self, first⟩, fun other member => ?_⟩
      obtain ⟨source, there, found⟩ := ih others other member
      exact ⟨source, List.mem_cons_of_mem _ there, found⟩

theorem mem_of_memberValues {room : Nat} {trees : List (Key × Tree)}
    {members : List (String × Json)} (read : memberValues room trees = .ok members) :
    ∀ member ∈ members, ∃ tree ∈ trees, tree.2.value room = .ok member.2 := by
  induction trees generalizing members with
  | nil =>
      cases read
      exact fun _ member => absurd member List.not_mem_nil
  | cons tree trees ih =>
      obtain ⟨key, tree⟩ := tree
      rw [memberValues] at read
      obtain ⟨name, _, read⟩ := bind_eq_ok.mp read
      obtain ⟨value, first, read⟩ := bind_eq_ok.mp read
      obtain ⟨rest, others, read⟩ := bind_eq_ok.mp read
      cases read
      refine List.forall_mem_cons.mpr
        ⟨⟨(key, tree), List.mem_cons_self, first⟩, fun other member => ?_⟩
      obtain ⟨source, there, found⟩ := ih others other member
      exact ⟨source, List.mem_cons_of_mem _ there, found⟩

theorem value_array {room : Nat} {trees : List Tree} {close : Close} {value : Json}
    (read : Tree.value room (.array trees close) = .ok value) :
    ∃ inner items, room = inner + 1 ∧ values inner trees = .ok items ∧ value = .array items := by
  rw [Tree.value] at read
  obtain ⟨inner, entered, read⟩ := bind_eq_ok.mp read
  obtain ⟨items, each, read⟩ := bind_eq_ok.mp read
  obtain ⟨_, _, read⟩ := bind_eq_ok.mp read
  cases read
  exact ⟨inner, items, enter_eq_ok.mp entered, each, rfl⟩

theorem value_object {room : Nat} {trees : List (Key × Tree)} {close : Close} {value : Json}
    (read : Tree.value room (.object trees close) = .ok value) :
    ∃ inner members, room = inner + 1 ∧ memberValues inner trees = .ok members ∧
      value = .object (sortMembers members) := by
  rw [Tree.value] at read
  obtain ⟨inner, entered, read⟩ := bind_eq_ok.mp read
  obtain ⟨members, each, read⟩ := bind_eq_ok.mp read
  obtain ⟨_, _, read⟩ := bind_eq_ok.mp read
  cases read
  exact ⟨inner, members, enter_eq_ok.mp entered, each, rfl⟩

/-! ## Values -/

/-- A value that is read is sorted, and there was room for its depth. -/
theorem value_sorted {tree : Tree} {room : Nat} {value : Json}
    (read : tree.value room = .ok value) : IsSorted value ∧ value.depth ≤ room := by
  induction tree using Tree.induction generalizing room value with
  | null | bool =>
      cases read
      exact ⟨trivial, Nat.zero_le _⟩
  | number scan | string scan =>
      obtain ⟨inner, -, rfl⟩ := map_eq_ok read
      exact ⟨trivial, Nat.zero_le _⟩
  | array trees close ih =>
      obtain ⟨inner, items, rfl, each, rfl⟩ := value_array read
      have kept : ∀ item ∈ items, IsSorted item ∧ item.depth ≤ inner := by
        intro item member
        obtain ⟨tree, there, found⟩ := mem_of_values each item member
        exact ih tree there found
      exact ⟨⟨trivial, everyItem_iff.mpr fun item member => (kept item member).1⟩,
        Nat.succ_le_succ (itemsDepth_le.mpr fun item member => (kept item member).2)⟩
  | object trees close ih =>
      obtain ⟨inner, members, rfl, each, rfl⟩ := value_object read
      have kept : ∀ member ∈ sortMembers members,
          IsSorted member.2 ∧ member.2.depth ≤ inner := by
        intro member found
        obtain ⟨tree, there, read⟩ := mem_of_memberValues each member (mem_of_mem_sortMembers found)
        exact ih tree there read
      exact ⟨⟨ascending_sortMembers members,
          everyMember_iff.mpr fun member found => (kept member found).1⟩,
        Nat.succ_le_succ (membersDepth_le.mpr fun member found => (kept member found).2)⟩
  | broken reason => cases read

/-! ## Numbers -/

mutual

/-- All numbers in a tree that can be read are integers that fit a word. -/
def IsIntegral : Tree → Prop
  | .number scan => ∀ number, scan.read = .ok number → Whole (.number number)
  | .array items _ => ItemsIntegral items
  | .object members _ => MembersIntegral members
  | _ => True

/-- All numbers in the trees of items are integers. -/
def ItemsIntegral : List Tree → Prop
  | [] => True
  | item :: rest => IsIntegral item ∧ ItemsIntegral rest

/-- All numbers in the trees of members are integers. -/
def MembersIntegral : List (Key × Tree) → Prop
  | [] => True
  | (_, tree) :: rest => IsIntegral tree ∧ MembersIntegral rest

end

theorem itemsIntegral_iff {items : List Tree} :
    ItemsIntegral items ↔ ∀ item ∈ items, item.IsIntegral := by
  induction items with
  | nil => simp [ItemsIntegral]
  | cons item rest ih => simp [ItemsIntegral, ih]

theorem membersIntegral_iff {members : List (Key × Tree)} :
    MembersIntegral members ↔ ∀ member ∈ members, member.2.IsIntegral := by
  induction members with
  | nil => simp [MembersIntegral]
  | cons member rest ih => simp [MembersIntegral, ih]

instance (value : Json) : Decidable (Whole value) :=
  match value with
  | .number (.integer i) => inferInstanceAs (Decidable (IsWord i))
  | .number (.fraction _) => .isFalse id
  | .null | .bool _ | .string _ | .array _ | .object _ => .isTrue trivial

mutual

/-- Whether all numbers in a tree are integers. -/
def decideIntegral : (tree : Tree) → Decidable tree.IsIntegral
  | .number ⟨.ok found, _⟩ =>
      decidable_of_iff (Whole (.number found))
        ⟨fun whole other read => by cases read; exact whole, fun each => each found rfl⟩
  | .number ⟨.error _, _⟩ => .isTrue fun _ => nofun
  | .array items _ => decideItemsIntegral items
  | .object members _ => decideMembersIntegral members
  | .null | .bool _ | .string _ | .broken _ => .isTrue trivial

/-- Whether all numbers in the trees of items are integers. -/
def decideItemsIntegral : (items : List Tree) → Decidable (ItemsIntegral items)
  | [] => .isTrue trivial
  | item :: rest =>
      match decideIntegral item, decideItemsIntegral rest with
      | .isTrue first, .isTrue others => .isTrue ⟨first, others⟩
      | .isFalse other, _ => .isFalse fun both => other both.1
      | _, .isFalse other => .isFalse fun both => other both.2

/-- Whether all numbers in the trees of members are integers. -/
def decideMembersIntegral : (members : List (Key × Tree)) → Decidable (MembersIntegral members)
  | [] => .isTrue trivial
  | (_, tree) :: rest =>
      match decideIntegral tree, decideMembersIntegral rest with
      | .isTrue first, .isTrue others => .isTrue ⟨first, others⟩
      | .isFalse other, _ => .isFalse fun both => other both.1
      | _, .isFalse other => .isFalse fun both => other both.2

end

instance (tree : Tree) : Decidable tree.IsIntegral := decideIntegral tree

theorem value_integral {tree : Tree} (integral : tree.IsIntegral) {room : Nat} {value : Json}
    (read : tree.value room = .ok value) : Json.IsIntegral value := by
  induction tree using Tree.induction generalizing room value with
  | null | bool =>
      cases read
      exact trivial
  | number scan =>
      obtain ⟨number, found, rfl⟩ := map_eq_ok read
      exact integral number found
  | string scan =>
      obtain ⟨inner, -, rfl⟩ := map_eq_ok read
      exact trivial
  | array trees close ih =>
      obtain ⟨inner, items, rfl, each, rfl⟩ := value_array read
      refine ⟨trivial, everyItem_iff.mpr fun item member => ?_⟩
      obtain ⟨tree, there, found⟩ := mem_of_values each item member
      exact ih tree there (itemsIntegral_iff.mp integral tree there) found
  | object trees close ih =>
      obtain ⟨inner, members, rfl, each, rfl⟩ := value_object read
      refine ⟨trivial, everyMember_iff.mpr fun member found => ?_⟩
      obtain ⟨tree, there, read⟩ := mem_of_memberValues each member (mem_of_mem_sortMembers found)
      exact ih tree there (membersIntegral_iff.mp integral tree there) read
  | broken reason => cases read

end Tree

end NetConsole.Json
