import NetConsole.Proofs.Json.Spelling

/-!
# Sorted values

What holds of every part of a value, and above all that the members of every object ascend. A value
that is sorted already stays as it is, and whatever a reader of free values returns is sorted and
nested no deeper than it had room for.
-/

set_option autoImplicit false

namespace NetConsole.Json

/-! ## Every part -/

mutual

/-- Something holds of a value and of every value inside it. -/
def Every (holds : Json → Prop) : Json → Prop
  | .array items => holds (.array items) ∧ EveryItem holds items
  | .object members => holds (.object members) ∧ EveryMember holds members
  | value => holds value

/-- Something holds of all items and inside them. -/
def EveryItem (holds : Json → Prop) : List Json → Prop
  | [] => True
  | item :: rest => Every holds item ∧ EveryItem holds rest

/-- Something holds of the values of all members and inside them. -/
def EveryMember (holds : Json → Prop) : List (String × Json) → Prop
  | [] => True
  | (_, value) :: rest => Every holds value ∧ EveryMember holds rest

end

variable {holds : Json → Prop}

theorem Every.here {value : Json} (every : Every holds value) : holds value := by
  cases value with
  | null | bool | number | string => exact every
  | array items => exact every.1
  | object members => exact every.1

theorem everyItem_iff {items : List Json} :
    EveryItem holds items ↔ ∀ item ∈ items, Every holds item := by
  induction items with
  | nil => simp [EveryItem]
  | cons item rest ih => simp [EveryItem, ih]

theorem everyMember_iff {members : List (String × Json)} :
    EveryMember holds members ↔ ∀ member ∈ members, Every holds member.2 := by
  induction members with
  | nil => simp [EveryMember]
  | cons member rest ih => simp [EveryMember, ih]

/-! ## Sorting -/

/-- The members of an object ascend. -/
def Orderly : Json → Prop
  | .object members => Ascending members
  | _ => True

/-- The members of every object in a value ascend. -/
abbrev IsSorted (value : Json) : Prop := Every Orderly value

theorem mem_of_mem_sortMembers {members : List (String × Json)} {member : String × Json}
    (found : member ∈ sortMembers members) : member ∈ members := by
  suffices within : ∀ start : List (String × Json), Ascending start →
      member ∈ members.foldl (fun sorted other => insertMember other.1 other.2 sorted) start →
        member ∈ start ∨ member ∈ members by
    exact (within [] List.Pairwise.nil found).resolve_left List.not_mem_nil
  clear found
  induction members with
  | nil => exact fun _ _ => .inl
  | cons head rest ih =>
      intro start ascending found
      rw [List.foldl_cons, insertMember_eq_put] at found
      rcases ih _ (ascending.put_ascending head.1 head.2) found with earlier | later
      · rcases (Ascending.mem_put ascending head.1 head.2 member).mp earlier with rfl | ⟨there, -⟩
        · exact .inr List.mem_cons_self
        · exact .inl there
      · exact .inr (List.mem_cons_of_mem _ later)

theorem sortedItems_eq_map (items : List Json) : sortedItems items = items.map sorted := by
  induction items with
  | nil => rfl
  | cons item rest ih => rw [sortedItems, ih, List.map_cons]

theorem sortedMembers_eq_map (members : List (String × Json)) :
    sortedMembers members = members.map fun member => (member.1, member.2.sorted) := by
  induction members with
  | nil => rfl
  | cons member rest ih => rw [sortedMembers, ih, List.map_cons]

theorem sorted_eq_self {value : Json} (isSorted : IsSorted value) : value.sorted = value := by
  induction value using Json.induction with
  | null | bool | number | string => rfl
  | array items ih =>
      have each := everyItem_iff.mp isSorted.2
      have same : items.map sorted = items :=
        (List.map_congr_left fun item member => ih item member (each item member)).trans
          (List.map_id items)
      rw [sorted, sortedItems_eq_map, same]
  | object members ih =>
      have each := everyMember_iff.mp isSorted.2
      have same : members.map (fun member => (member.1, member.2.sorted)) = members :=
        (List.map_congr_left fun member isMember => by
          rw [ih member isMember (each member isMember)]
          rfl).trans (List.map_id members)
      have ascending : Ascending members := isSorted.1
      rw [sorted, sortedMembers_eq_map, same, sortMembers_eq_self ascending]

theorem mem_sorted_members {members : List (String × Json)} {member : String × Json}
    (found : member ∈ sortMembers (sortedMembers members)) :
    ∃ original ∈ members, member = (original.1, original.2.sorted) := by
  have earlier := mem_of_mem_sortMembers found
  rw [sortedMembers_eq_map] at earlier
  obtain ⟨original, there, same⟩ := List.mem_map.mp earlier
  exact ⟨original, there, same.symm⟩

theorem isSorted_sorted (value : Json) : IsSorted value.sorted := by
  induction value using Json.induction with
  | null | bool | number | string => trivial
  | array items ih =>
      rw [sorted, sortedItems_eq_map]
      refine ⟨trivial, everyItem_iff.mpr fun item found => ?_⟩
      obtain ⟨original, there, rfl⟩ := List.mem_map.mp found
      exact ih original there
  | object members ih =>
      rw [sorted]
      refine ⟨ascending_sortMembers _, everyMember_iff.mpr fun member found => ?_⟩
      obtain ⟨original, there, rfl⟩ := mem_sorted_members found
      exact ih original there

theorem depth_sorted_le (value : Json) : value.sorted.depth ≤ value.depth := by
  induction value using Json.induction with
  | null | bool | number | string => exact Nat.le_refl _
  | array items ih =>
      rw [sorted, sortedItems_eq_map, depth, depth]
      refine Nat.succ_le_succ (itemsDepth_le.mpr fun item found => ?_)
      obtain ⟨original, there, rfl⟩ := List.mem_map.mp found
      exact (ih original there).trans (itemsDepth_le.mp (Nat.le_refl _) original there)
  | object members ih =>
      rw [sorted, depth, depth]
      refine Nat.succ_le_succ (membersDepth_le.mpr fun member found => ?_)
      obtain ⟨original, there, rfl⟩ := mem_sorted_members found
      exact (ih original there).trans (membersDepth_le.mp (Nat.le_refl _) original there)

/-! ## Integers -/

/-- A number is an integer that fits a word. -/
def Whole : Json → Prop
  | .number (.integer i) => IsWord i
  | .number (.fraction _) => False
  | _ => True

/-- All numbers in a value are integers that fit a word. -/
abbrev IsIntegral (value : Json) : Prop := Every Whole value

theorem isIntegral_sorted {value : Json} (integral : IsIntegral value) :
    IsIntegral value.sorted := by
  induction value using Json.induction with
  | null | bool | number | string => exact integral
  | array items ih =>
      have each := everyItem_iff.mp integral.2
      rw [sorted, sortedItems_eq_map]
      refine ⟨trivial, everyItem_iff.mpr fun item found => ?_⟩
      obtain ⟨original, there, rfl⟩ := List.mem_map.mp found
      exact ih original there (each original there)
  | object members ih =>
      have each := everyMember_iff.mp integral.2
      rw [sorted]
      refine ⟨trivial, everyMember_iff.mpr fun member found => ?_⟩
      obtain ⟨original, there, rfl⟩ := mem_sorted_members found
      exact ih original there (each original there)

/-! ## Lookups -/

theorem lookup_append (key : String) (first second : List (String × Json)) :
    lookup key (first ++ second) = (lookup key second).or (lookup key first) := by
  induction first with
  | nil => rw [List.nil_append, lookup, Option.or_none]
  | cons member rest ih =>
      obtain ⟨k, v⟩ := member
      rw [List.cons_append, lookup, ih, lookup, Option.or_assoc]

theorem lookup_eq_none {key : String} {members : List (String × Json)}
    (missing : ∀ member ∈ members, member.1 ≠ key) : lookup key members = none := by
  induction members with
  | nil => rfl
  | cons member rest ih =>
      obtain ⟨k, v⟩ := member
      obtain ⟨first, others⟩ := List.forall_mem_cons.mp missing
      rw [lookup, ih others, if_neg first]
      rfl

theorem lookup_eq_find? {members : List (String × Json)} (ascending : Ascending members)
    (key : String) : lookup key members = (members.find? (·.1 == key)).map (·.2) := by
  induction members with
  | nil => rfl
  | cons member rest ih =>
      obtain ⟨k, v⟩ := member
      obtain ⟨above, restAscending⟩ := List.pairwise_cons.mp ascending
      rw [lookup]
      by_cases same : k = key
      · subst same
        have later : lookup k rest = none := lookup_eq_none fun other there => (above other there).ne'
        simp [later]
      · rw [if_neg same, Option.or_none, ih restAscending]
        simp [same]

/-- Sorting members keeps what is found under every key. -/
theorem lookup_sortMembers (key : String) (members : List (String × Json)) :
    lookup key (sortMembers members) = lookup key members := by
  suffices reached : ∀ start : List (String × Json), Ascending start →
      lookup key (members.foldl (fun sorted other => insertMember other.1 other.2 sorted) start) =
        (lookup key members).or (lookup key start) by
    exact (reached [] List.Pairwise.nil).trans Option.or_none
  induction members with
  | nil => exact fun _ _ => rfl
  | cons member rest ih =>
      intro start ascending
      obtain ⟨k, v⟩ := member
      have put := ascending.put_ascending k v
      rw [List.foldl_cons, insertMember_eq_put, ih _ put, lookup_eq_find? put,
        Ascending.find?_put ascending, lookup, Option.or_assoc, lookup_eq_find? ascending]
      by_cases same : k = key
      · subst same
        simp
      · simp [same, Ne.symm same]

theorem lookup_sortedMembers (key : String) (members : List (String × Json)) :
    lookup key (sortedMembers members) = (lookup key members).map sorted := by
  induction members with
  | nil => rfl
  | cons member rest ih =>
      obtain ⟨k, v⟩ := member
      rw [sortedMembers, lookup, lookup, ih]
      cases lookup key rest with
      | some value => rfl
      | none =>
          by_cases same : k = key
          · simp [same]
          · simp [same]

/-- The members of a value are the same when it is sorted, but for being sorted themselves. -/
theorem get?_sorted (key : String) (value : Json) :
    value.sorted.get? key = (value.get? key).map sorted := by
  cases value with
  | null | bool | number | string | array => rfl
  | object members =>
      rw [sorted, get?, get?, lookup_sortMembers, lookup_sortedMembers]

end NetConsole.Json
