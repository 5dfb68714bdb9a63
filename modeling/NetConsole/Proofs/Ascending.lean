import NetConsole.Files.Basic
import NetConsole.Store.Basic
import Mathlib.Data.String.Basic

/-!
# Ascending lists

Members of objects, numbered documents, collections and names are all kept ascending by the same
insertion: an entry goes to its place, and one with the same key makes way for it. What holds of
that insertion is said once here, over any keys.
-/

set_option autoImplicit false

namespace NetConsole

variable {κ α : Type} [LinearOrder κ]

/-- The keys of entries ascend, so no two are the same. -/
def Ascending (entries : List (κ × α)) : Prop := entries.Pairwise (·.1 < ·.1)

namespace Ascending

/-- An entry put at its place among entries with ascending keys. -/
def put (key : κ) (value : α) : List (κ × α) → List (κ × α)
  | [] => [(key, value)]
  | (k, v) :: rest =>
      if key < k then (key, value) :: (k, v) :: rest
      else if k < key then (k, v) :: put key value rest
      else (key, value) :: rest

theorem mem_put {entries : List (κ × α)} (ascending : Ascending entries) (key : κ) (value : α)
    (entry : κ × α) :
    entry ∈ put key value entries ↔ entry = (key, value) ∨ entry ∈ entries ∧ entry.1 ≠ key := by
  induction entries with
  | nil => simp [put]
  | cons head rest ih =>
      obtain ⟨k, v⟩ := head
      obtain ⟨above, restAscending⟩ := List.pairwise_cons.mp ascending
      rcases lt_trichotomy key k with less | same | more
      · have apart : ∀ other ∈ (k, v) :: rest, other.1 ≠ key := by
          intro other member
          rcases List.mem_cons.mp member with rfl | later
          · exact less.ne'
          · exact (less.trans (above other later)).ne'
        rw [put, if_pos less, List.mem_cons]
        constructor
        · intro given
          rcases given with rfl | member
          · exact .inl rfl
          · exact .inr ⟨member, apart entry member⟩
        · intro given
          rcases given with rfl | ⟨member, -⟩
          · exact .inl rfl
          · exact .inr member
      · subst same
        rw [put, if_neg (lt_irrefl key), if_neg (lt_irrefl key), List.mem_cons, List.mem_cons]
        constructor
        · intro given
          rcases given with rfl | member
          · exact .inl rfl
          · exact .inr ⟨.inr member, (above entry member).ne'⟩
        · intro given
          rcases given with rfl | ⟨rfl | member, apart⟩
          · exact .inl rfl
          · exact absurd rfl apart
          · exact .inr member
      · rw [put, if_neg more.not_gt, if_pos more, List.mem_cons, ih restAscending, List.mem_cons]
        constructor
        · intro given
          rcases given with rfl | rfl | ⟨member, apart⟩
          · exact .inr ⟨.inl rfl, more.ne⟩
          · exact .inl rfl
          · exact .inr ⟨.inr member, apart⟩
        · intro given
          rcases given with rfl | ⟨rfl | member, apart⟩
          · exact .inr (.inl rfl)
          · exact .inl rfl
          · exact .inr (.inr ⟨member, apart⟩)

protected theorem put_ascending {entries : List (κ × α)} (ascending : Ascending entries) (key : κ)
    (value : α) : Ascending (put key value entries) := by
  induction entries with
  | nil => exact List.pairwise_singleton _ _
  | cons head rest ih =>
      obtain ⟨k, v⟩ := head
      obtain ⟨above, restAscending⟩ := List.pairwise_cons.mp ascending
      rcases lt_trichotomy key k with less | same | more
      · rw [put, if_pos less]
        refine List.pairwise_cons.mpr ⟨fun other member => ?_, ascending⟩
        rcases List.mem_cons.mp member with rfl | later
        · exact less
        · exact less.trans (above other later)
      · subst same
        rw [put, if_neg (lt_irrefl key), if_neg (lt_irrefl key)]
        exact List.pairwise_cons.mpr ⟨above, restAscending⟩
      · rw [put, if_neg more.not_gt, if_pos more]
        refine List.pairwise_cons.mpr ⟨fun other member => ?_, ih restAscending⟩
        rcases (mem_put restAscending key value other).mp member with rfl | ⟨later, -⟩
        · exact more
        · exact above other later

theorem put_of_above {entries : List (κ × α)} {key : κ} (value : α)
    (above : ∀ entry ∈ entries, entry.1 < key) :
    put key value entries = entries ++ [(key, value)] := by
  induction entries with
  | nil => rfl
  | cons head rest ih =>
      obtain ⟨k, v⟩ := head
      have more := above (k, v) List.mem_cons_self
      rw [put, if_neg more.not_gt, if_pos more,
        ih fun entry member => above entry (List.mem_cons_of_mem _ member)]
      rfl

theorem foldl_put {first second : List (κ × α)} (ascending : Ascending (first ++ second)) :
    second.foldl (fun entries entry => put entry.1 entry.2 entries) first = first ++ second := by
  induction second generalizing first with
  | nil => exact (List.append_nil first).symm
  | cons entry rest ih =>
      have above : ∀ earlier ∈ first, earlier.1 < entry.1 := fun earlier member =>
        (List.pairwise_append.mp ascending).2.2 earlier member entry List.mem_cons_self
      have moved : first ++ entry :: rest = first ++ [entry] ++ rest :=
        List.append_cons first entry rest
      rw [List.foldl_cons, put_of_above entry.2 above, moved]
      rw [moved] at ascending
      exact ih ascending

theorem eq_of_mem {entries : List (κ × α)} (ascending : Ascending entries) {one two : κ × α}
    (oneMember : one ∈ entries) (twoMember : two ∈ entries) (same : one.1 = two.1) : one = two := by
  induction entries with
  | nil => cases oneMember
  | cons head rest ih =>
      obtain ⟨above, restAscending⟩ := List.pairwise_cons.mp ascending
      rcases List.mem_cons.mp oneMember with rfl | oneLater
      · rcases List.mem_cons.mp twoMember with rfl | twoLater
        · rfl
        · exact absurd same (above two twoLater).ne
      · rcases List.mem_cons.mp twoMember with rfl | twoLater
        · exact absurd same (above one oneLater).ne'
        · exact ih restAscending oneLater twoLater

theorem find?_eq_some {entries : List (κ × α)} (ascending : Ascending entries) {key : κ}
    {value : α} : entries.find? (·.1 == key) = some (key, value) ↔ (key, value) ∈ entries := by
  constructor
  · exact List.mem_of_find?_eq_some
  · intro member
    cases found : entries.find? (·.1 == key) with
    | none =>
        have missing := List.find?_eq_none.mp found (key, value) member
        exact absurd (beq_self_eq_true key) missing
    | some entry =>
        have named : entry.1 = key := by simpa using List.find?_some found
        rw [ascending.eq_of_mem (List.mem_of_find?_eq_some found) member named]

theorem find?_put {entries : List (κ × α)} (ascending : Ascending entries) (key : κ) (value : α)
    (other : κ) : (put key value entries).find? (·.1 == other) =
      if other = key then some (key, value) else entries.find? (·.1 == other) := by
  have putAscending := ascending.put_ascending key value
  by_cases same : other = key
  · subst same
    rw [if_pos rfl, putAscending.find?_eq_some, mem_put ascending]
    exact .inl rfl
  · rw [if_neg same]
    cases found : entries.find? (·.1 == other) with
    | none =>
        refine List.find?_eq_none.mpr fun entry member => ?_
        rcases (mem_put ascending key value entry).mp member with rfl | ⟨earlier, -⟩
        · simpa using Ne.symm same
        · exact List.find?_eq_none.mp found entry earlier
    | some entry =>
        obtain ⟨k, v⟩ := entry
        have named : k = other := by simpa using List.find?_some found
        subst named
        rw [putAscending.find?_eq_some, mem_put ascending]
        exact .inr ⟨List.mem_of_find?_eq_some found, same⟩

/-- Ascending entries are determined by which they are. -/
theorem ext {first second : List (κ × α)} (one : Ascending first) (two : Ascending second)
    (same : ∀ entry, entry ∈ first ↔ entry ∈ second) : first = second := by
  induction first generalizing second with
  | nil =>
      cases second with
      | nil => rfl
      | cons head rest => cases (same head).mpr List.mem_cons_self
  | cons head rest ih =>
      cases second with
      | nil => cases (same head).mp List.mem_cons_self
      | cons other more =>
          obtain ⟨above, restAscending⟩ := List.pairwise_cons.mp one
          obtain ⟨otherAbove, moreAscending⟩ := List.pairwise_cons.mp two
          have heads : head = other := by
            rcases List.mem_cons.mp ((same head).mp List.mem_cons_self) with heads | later
            · exact heads
            · rcases List.mem_cons.mp ((same other).mpr List.mem_cons_self) with others | earlier
              · exact others.symm
              · exact absurd (above other earlier) (otherAbove head later).not_gt
          subst heads
          rw [ih restAscending moreAscending fun entry => ?_]
          constructor
          · intro member
            rcases List.mem_cons.mp ((same entry).mp (List.mem_cons_of_mem _ member)) with
              rfl | later
            · exact absurd (above entry member) (lt_irrefl _)
            · exact later
          · intro member
            rcases List.mem_cons.mp ((same entry).mpr (List.mem_cons_of_mem _ member)) with
              rfl | later
            · exact absurd (otherAbove entry member) (lt_irrefl _)
            · exact later

end Ascending

/-! ## The lists that are kept ascending -/

open Ascending

namespace Json

theorem insertMember_eq_put (key : String) (value : Json) (members : List (String × Json)) :
    insertMember key value members = put key value members := by
  induction members with
  | nil => rfl
  | cons member rest ih => rw [insertMember, put, ih]

/-- The members of a value that came out sorted stay as they are. -/
theorem sortMembers_eq_self {members : List (String × Json)} (ascending : Ascending members) :
    sortMembers members = members := by
  have sorted := foldl_put (show Ascending ([] ++ members) from ascending)
  simp only [sortMembers, insertMember_eq_put]
  exact sorted

theorem ascending_sortMembers (members : List (String × Json)) :
    Ascending (sortMembers members) := by
  simp only [sortMembers, insertMember_eq_put]
  suffices kept : ∀ start : List (String × Json), Ascending start →
      Ascending (members.foldl (fun sorted member => put member.1 member.2 sorted) start) from
    kept [] List.Pairwise.nil
  induction members with
  | nil => exact fun _ ascending => ascending
  | cons member rest ih =>
      exact fun start ascending => ih _ (ascending.put_ascending member.1 member.2)

theorem insertNumbered_eq_put {α : Type} (key : Nat) (value : α) (entries : List (Nat × α)) :
    insertNumbered key value entries = put key value entries := by
  induction entries with
  | nil => rfl
  | cons entry rest ih => rw [insertNumbered, put, ih]

end Json

namespace Store

theorem putCollection_eq_put (name : String) (collection : Collection)
    (collections : List (String × Collection)) :
    putCollection name collection collections = Ascending.put name collection collections := by
  induction collections with
  | nil => rfl
  | cons entry rest ih => rw [putCollection, Ascending.put, ih]

end Store

end NetConsole
