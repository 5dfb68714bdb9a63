import NetConsole.Proofs.Json.Shapes

/-!
# Values without duplicate keys

Where no object has a key twice, every member is found under its key and sorting drops nothing.
Every sorted value is such a value.
-/

set_option autoImplicit false

namespace NetConsole.Json

/-- No key of an object is there twice. -/
def Distinct : Json → Prop
  | .object members => (members.map (·.1)).Nodup
  | _ => True

/-- No object in a value has a key twice. -/
abbrev IsDistinct (value : Json) : Prop := Every Distinct value

theorem Every.imp {holds other : Json → Prop} (implies : ∀ value, holds value → other value)
    {value : Json} (every : Every holds value) : Every other value := by
  induction value using Json.induction with
  | null | bool | number | string => exact implies _ every
  | array items ih =>
      obtain ⟨here, each⟩ := every
      have each := everyItem_iff.mp each
      exact ⟨implies _ here, everyItem_iff.mpr fun item member => ih item member (each item member)⟩
  | object members ih =>
      obtain ⟨here, each⟩ := every
      have each := everyMember_iff.mp each
      exact ⟨implies _ here,
        everyMember_iff.mpr fun member found => ih member found (each member found)⟩

theorem isDistinct_of_isSorted {value : Json} (isSorted : IsSorted value) : IsDistinct value := by
  refine Every.imp (fun one orderly => ?_) isSorted
  cases one with
  | object members => exact List.pairwise_map.mpr (List.Pairwise.imp ne_of_lt orderly)
  | null | bool | number | string | array => trivial

theorem lookup_of_mem {members : List (String × Json)} (distinct : (members.map (·.1)).Nodup)
    {member : String × Json} (found : member ∈ members) :
    lookup member.1 members = some member.2 := by
  induction members with
  | nil => cases found
  | cons head rest ih =>
      obtain ⟨fresh, others⟩ := List.nodup_cons.mp distinct
      rcases List.mem_cons.mp found with rfl | later
      · have missing : lookup member.1 rest = none :=
          lookup_eq_none fun other there same => fresh (List.mem_map.mpr ⟨other, there, same⟩)
        rw [lookup, missing, if_pos rfl, Option.none_or]
      · rw [lookup, ih others later, Option.some_or]

theorem mem_sortMembers {members : List (String × Json)} (distinct : (members.map (·.1)).Nodup)
    {member : String × Json} (found : member ∈ members) : member ∈ sortMembers members := by
  have same := lookup_of_mem distinct found
  rw [← lookup_sortMembers] at same
  exact mem_of_lookup same

/-- Sorting a value changes its depth only by dropping members. -/
theorem depth_sorted {value : Json} (distinct : IsDistinct value) :
    value.sorted.depth = value.depth := by
  refine Nat.le_antisymm (depth_sorted_le value) ?_
  induction value using Json.induction with
  | null | bool | number | string => exact Nat.le_refl _
  | array items ih =>
      have each := everyItem_iff.mp distinct.2
      rw [sorted, sortedItems_eq_map, depth, depth]
      refine Nat.succ_le_succ (itemsDepth_le.mpr fun item member => ?_)
      exact (ih item member (each item member)).trans
        (itemsDepth_le.mp (Nat.le_refl _) _ (List.mem_map_of_mem member))
  | object members ih =>
      have each := everyMember_iff.mp distinct.2
      have keys : ((sortedMembers members).map (·.1)).Nodup := by
        rw [sortedMembers_eq_map, List.map_map]
        exact distinct.1
      rw [sorted, depth, depth]
      refine Nat.succ_le_succ (membersDepth_le.mpr fun member found => ?_)
      have kept : (member.1, member.2.sorted) ∈ sortMembers (sortedMembers members) := by
        refine mem_sortMembers keys ?_
        rw [sortedMembers_eq_map]
        exact List.mem_map_of_mem found
      exact (ih member found (each member found)).trans
        (membersDepth_le.mp (Nat.le_refl _) _ kept)

theorem sortMembers_congr {first second : List (String × Json)}
    (same : ∀ key, lookup key first = lookup key second) :
    sortMembers first = sortMembers second := by
  have one := ascending_sortMembers first
  have two := ascending_sortMembers second
  have found : ∀ {members : List (String × Json)} (entry : String × Json),
      entry ∈ sortMembers members ↔ lookup entry.1 members = some entry.2 := by
    intro members entry
    rw [← lookup_sortMembers]
    exact ⟨lookup_of_mem (List.pairwise_map.mpr ((ascending_sortMembers members).imp ne_of_lt)),
      mem_of_lookup⟩
  exact one.ext two fun entry => by rw [found, found, same]

end NetConsole.Json
