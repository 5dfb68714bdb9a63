import NetConsole.Proofs.Json.Distinct
import NetConsole.Proofs.Records.Documents

/-!
# The fields of a record

What a reader of records makes of the members that a text states. A member whose key is the key of
a field is read by the shape of the field, a scalar as the free value that it is; of the members
with one other key the last is kept, as a free value; and a field that is not stated has what its
absence means.
-/

set_option autoImplicit false

namespace NetConsole.Json

open Stepwise

/-! ## Stated members -/

/-- The tree of the last member with a key. -/
def statedIn (key : String) : List (Key × Tree) → Option Tree
  | [] => none
  | (name, tree) :: rest =>
      (statedIn key rest).or (if name.text.read.toOption = some key then some tree else none)

/-- What an object says under a key, in the last member with it. -/
def Tree.stated? (key : String) : Tree → Option Tree
  | .object members _ => statedIn key members
  | _ => none

theorem statedIn_cons {key own : String} {name : Key} {tree : Tree} {rest : List (Key × Tree)}
    (named : name.text.read = .ok own) : statedIn key ((name, tree) :: rest) =
      (statedIn key rest).or (if own = key then some tree else none) := by
  simp [statedIn, named, Except.toOption]

/-- A member of a record that keeps all members is read as the field that it names, which is named
for the first time, or kept as a free value under a key of no field. -/
theorem readMembers_inv {fields : List Field} {room : Nat} {met result rest : List (String × Json)}
    {key : Key} {tree : Tree} {trees : List (Key × Tree)}
    (read : readMembers fields true room met ((key, tree) :: trees) = .ok (result, rest)) :
    ∃ name value, key.text.read = .ok name ∧
      ((∃ field, fieldOf fields name = some field ∧ lookup name met = none ∧
        readShape field.shape room tree = .ok value ∧
        readMembers fields true room (met ++ [(name, value)]) trees = .ok (result, rest)) ∨
      (∃ more, fieldOf fields name = none ∧ tree.value room = .ok value ∧
        rest = (name, value) :: more ∧
        readMembers fields true room met trees = .ok (result, more))) := by
  rw [readMembers] at read
  obtain ⟨name, named, read⟩ := bind_eq_ok.mp read
  cases known : fieldOf fields name with
  | some field =>
      rw [known] at read
      dsimp only at read
      split at read
      · cases read
      next unmet =>
        obtain ⟨value, first, read⟩ := bind_eq_ok.mp read
        exact ⟨name, value, named, .inl ⟨field, known, by simpa using unmet, first, read⟩⟩
  | none =>
      rw [known] at read
      dsimp only at read
      rw [if_pos rfl] at read
      obtain ⟨value, first, read⟩ := bind_eq_ok.mp read
      obtain ⟨⟨others, more⟩, later, read⟩ := bind_eq_ok.mp read
      cases read
      exact ⟨name, value, named, .inr ⟨more, known, first, rfl, later⟩⟩

/-- Whether other members are kept or not, a member is read as the field that it names, which is
named for the first time, or it names no field. -/
theorem readMembers_step {fields : List Field} {keepsRest : Bool} {room : Nat}
    {met result rest : List (String × Json)} {key : Key} {tree : Tree} {trees : List (Key × Tree)}
    (read : readMembers fields keepsRest room met ((key, tree) :: trees) = .ok (result, rest)) :
    ∃ name, key.text.read = .ok name ∧
      ((∃ field value, fieldOf fields name = some field ∧ lookup name met = none ∧
        readShape field.shape room tree = .ok value ∧
        readMembers fields keepsRest room (met ++ [(name, value)]) trees = .ok (result, rest)) ∨
      (fieldOf fields name = none ∧
        ∃ more, readMembers fields keepsRest room met trees = .ok (result, more))) := by
  cases keepsRest with
  | true =>
      obtain ⟨name, value, named, ⟨field, known, unmet, first, later⟩ |
        ⟨more, unknown, -, -, later⟩⟩ := readMembers_inv read
      · exact ⟨name, named, .inl ⟨field, value, known, unmet, first, later⟩⟩
      · exact ⟨name, named, .inr ⟨unknown, more, later⟩⟩
  | false =>
      rw [readMembers] at read
      obtain ⟨name, named, read⟩ := bind_eq_ok.mp read
      refine ⟨name, named, ?_⟩
      cases known : fieldOf fields name with
      | some field =>
          rw [known] at read
          dsimp only at read
          split at read
          · cases read
          next unmet =>
            obtain ⟨value, first, later⟩ := bind_eq_ok.mp read
            exact .inl ⟨field, value, rfl, by simpa using unmet, first, later⟩
      | none =>
          rw [known] at read
          obtain ⟨_, -, later⟩ := bind_eq_ok.mp read
          exact .inr ⟨rfl, rest, later⟩

/-- A field is met if its key is stated, and then by what is stated. -/
theorem readMembers_field {fields : List Field} {keepsRest : Bool} {room : Nat}
    {met result rest : List (String × Json)} {trees : List (Key × Tree)} {key : String}
    {field : Field} (known : fieldOf fields key = some field)
    (read : readMembers fields keepsRest room met trees = .ok (result, rest)) :
    (statedIn key trees = none ∧ lookup key result = lookup key met) ∨
      (lookup key met = none ∧ ∃ part held, statedIn key trees = some part ∧
        readShape field.shape room part = .ok held ∧ lookup key result = some held) := by
  induction trees generalizing met rest with
  | nil =>
      rw [readMembers] at read
      cases read
      exact .inl ⟨rfl, rfl⟩
  | cons tree trees ih =>
      obtain ⟨name, tree⟩ := tree
      obtain ⟨own, named, ⟨other, value, ownKnown, unmet, first, later⟩ |
        ⟨ownUnknown, more, later⟩⟩ := readMembers_step read
      · rw [statedIn_cons named]
        have after := ih later
        rw [lookup_append, lookup, lookup, Option.none_or] at after
        by_cases same : own = key
        · subst same
          rw [known] at ownKnown
          cases ownKnown
          rw [if_pos rfl, Option.some_or] at after
          -- the field is met now, so it is not stated again further on
          rcases after with ⟨unstated, found⟩ | ⟨again, -⟩
          · exact .inr ⟨unmet, tree, value, by rw [unstated, if_pos rfl, Option.none_or],
              first, found⟩
          · cases again
        · rw [if_neg same, Option.none_or] at after
          rw [if_neg same, Option.or_none]
          exact after
      · have other : own ≠ key := by
          rintro rfl
          rw [known] at ownUnknown
          cases ownUnknown
        rw [statedIn_cons named, if_neg other, Option.or_none]
        exact ih later

/-- What is kept under a key of no field is what is stated last. -/
theorem readMembers_other {fields : List Field} {room : Nat}
    {met result rest : List (String × Json)} {trees : List (Key × Tree)} {key : String}
    (unknown : fieldOf fields key = none)
    (read : readMembers fields true room met trees = .ok (result, rest)) :
    (statedIn key trees = none ∧ lookup key rest = none) ∨
      ∃ part held, statedIn key trees = some part ∧ part.value room = .ok held ∧
        lookup key rest = some held := by
  induction trees generalizing met rest with
  | nil =>
      rw [readMembers] at read
      cases read
      exact .inl ⟨rfl, rfl⟩
  | cons tree trees ih =>
      obtain ⟨name, tree⟩ := tree
      obtain ⟨own, value, named, ⟨field, ownKnown, -, -, later⟩ |
        ⟨more, -, first, rfl, later⟩⟩ := readMembers_inv read
      · have other : own ≠ key := by
          rintro rfl
          rw [unknown] at ownKnown
          cases ownKnown
        rw [statedIn_cons named, if_neg other, Option.or_none]
        exact ih later
      · rw [statedIn_cons named, lookup]
        rcases ih later with ⟨unstated, nothing⟩ | ⟨part, held, stated, origin, found⟩
        · rw [unstated, nothing, Option.none_or, Option.none_or]
          by_cases same : own = key
          · rw [if_pos same, if_pos same]
            exact .inr ⟨tree, value, rfl, first, rfl⟩
          · rw [if_neg same, if_neg same]
            exact .inl ⟨rfl, rfl⟩
        · rw [stated, found, Option.some_or, Option.some_or]
          exact .inr ⟨part, held, rfl, origin, rfl⟩

/-! ## Fields in their places -/

theorem mem_of_fieldOf {fields : List Field} {key : String} {field : Field}
    (known : fieldOf fields key = some field) : field ∈ fields ∧ field.key = key :=
  ⟨List.mem_of_find?_eq_some known, by simpa using List.find?_some known⟩

theorem fieldOf_eq_none {fields : List Field} {key : String} :
    fieldOf fields key = none ↔ key ∉ fields.map Field.key := by
  simp [fieldOf]

/-- Members for the fields of a record in their order, and further members under other keys. -/
structure Laid (fields : List Field) (members rest : List (String × Json)) : Prop where
  named : members.map (·.1) = fields.map Field.key
  distinct : (fields.map Field.key).Nodup
  unknown : ∀ member ∈ rest, fieldOf fields member.1 = none
  ascending : Ascending rest

section Laid

variable {fields : List Field} {members rest : List (String × Json)}

theorem Laid.lookup_rest (laid : Laid fields members rest) {key : String} {field : Field}
    (known : fieldOf fields key = some field) : lookup key rest = none := by
  refine lookup_eq_none fun member found same => ?_
  have unknown := laid.unknown member found
  rw [same, known] at unknown
  cases unknown

theorem Laid.lookup_known (laid : Laid fields members rest) {key : String} {field : Field}
    (known : fieldOf fields key = some field) :
    lookup key (members ++ rest) = lookup key members := by
  rw [lookup_append, laid.lookup_rest known, Option.none_or]

theorem Laid.lookup_unknown (laid : Laid fields members rest) {key : String}
    (unknown : fieldOf fields key = none) :
    lookup key (members ++ rest) = lookup key rest := by
  have missing : lookup key members = none := by
    refine lookup_eq_none fun member found same => ?_
    refine fieldOf_eq_none.mp unknown ?_
    rw [← laid.named, ← same]
    exact List.mem_map_of_mem found
  rw [lookup_append, missing, Option.or_none]

/-- No key is there twice. -/
theorem Laid.nodup (laid : Laid fields members rest) :
    ((members ++ rest).map (·.1)).Nodup := by
  rw [List.map_append]
  refine List.nodup_append.mpr ⟨laid.named ▸ laid.distinct, ?_, ?_⟩
  · exact List.pairwise_map.mpr (laid.ascending.imp ne_of_lt)
  · intro one own two other same
    obtain ⟨member, found, rfl⟩ := List.mem_map.mp other
    refine fieldOf_eq_none.mp (laid.unknown member found) ?_
    rw [← laid.named, ← same]
    exact own

theorem Laid.mem_rest (laid : Laid fields members rest) {key : String} {value : Json} :
    (key, value) ∈ rest ↔
      fieldOf fields key = none ∧ lookup key (members ++ rest) = some value := by
  constructor
  · intro found
    have unknown := laid.unknown (key, value) found
    have nodup : (rest.map (·.1)).Nodup := List.pairwise_map.mpr (laid.ascending.imp ne_of_lt)
    exact ⟨unknown, (laid.lookup_unknown unknown).trans (lookup_of_mem nodup found)⟩
  · rintro ⟨unknown, found⟩
    rw [laid.lookup_unknown unknown] at found
    exact mem_of_lookup found

end Laid

theorem named_of_fills {room : Nat} {tree : Tree} {fields : List Field}
    {members : List (String × Json)}
    (fills : List.Forall₂ (Field.Fills room tree) fields members) :
    members.map (·.1) = fields.map Field.key := by
  induction fills with
  | nil => rfl
  | cons first _ ih => rw [List.map_cons, List.map_cons, first.named, ih]

/-- What is read of a record is laid out: its fields, each filled, and after them the free values
that it keeps. -/
theorem readShape_laid {name : String} {fields : List Field} {keepsRest : Bool} {room : Nat}
    {tree : Tree} {value : Json} (distinct : (fields.map Field.key).Nodup)
    (read : readShape (.record name fields keepsRest) room tree = .ok value) :
    ∃ inner members rest, room = inner + 1 ∧ value = .object (members ++ rest) ∧
      Laid fields members rest ∧ List.Forall₂ (Field.Fills inner tree) fields members ∧
      (∀ member ∈ rest, ∃ part ∈ tree.parts, part.value inner = .ok member.2) ∧
      (keepsRest = false → rest = []) := by
  obtain ⟨inner, members, rest, deep, whole, fills, kept, nothing⟩ :=
    readShape_record distinct read
  have laid : Laid fields members (sortMembers rest) :=
    { named := named_of_fills fills
      distinct
      unknown := fun member found => (kept member (mem_of_mem_sortMembers found)).1
      ascending := ascending_sortMembers rest }
  refine ⟨inner, members, sortMembers rest, deep, whole, laid, fills, ?_, fun dropped => ?_⟩
  · exact fun member found => (kept member (mem_of_mem_sortMembers found)).2
  · rw [nothing dropped]
    rfl

theorem complete_named {met members : List (String × Json)} {fields : List Field}
    (completed : complete met fields = .ok members) :
    members.map (·.1) = fields.map Field.key := by
  induction fields generalizing members with
  | nil =>
      cases completed
      rfl
  | cons field fields ih =>
      obtain ⟨held, rest, rfl, later, -⟩ := complete_cons completed
      rw [List.map_cons, List.map_cons, ih later]

theorem lookup_complete {met members : List (String × Json)} {fields : List Field}
    (distinct : (fields.map Field.key).Nodup) (completed : complete met fields = .ok members)
    {field : Field} (member : field ∈ fields) :
    ∃ held, lookup field.key members = some held ∧
      (lookup field.key met = some held ∨
        lookup field.key met = none ∧ field.absence.ofKey? = some held) := by
  induction fields generalizing members with
  | nil => cases member
  | cons head fields ih =>
      obtain ⟨fresh, others⟩ := List.nodup_cons.mp distinct
      obtain ⟨held, rest, rfl, later, origin⟩ := complete_cons completed
      rcases List.mem_cons.mp member with rfl | below
      · have missing : lookup field.key rest = none := by
          refine lookup_eq_none fun other found same => fresh ?_
          rw [← complete_named later, ← same]
          exact List.mem_map_of_mem found
        exact ⟨held, by rw [lookup, missing, if_pos rfl, Option.none_or], origin⟩
      · obtain ⟨held, found, origin⟩ := ih others later below
        exact ⟨held, by rw [lookup, found, Option.some_or], origin⟩

/-! ## What is found in a record -/

/-- What is found under a key of a record that is read from a tree: what is stated under it, read
by the shape of its field or as a free value, or what the absence of its field means. -/
inductive Finds (fields : List Field) (room : Nat) (tree : Tree) (key : String) :
    Option Json → Prop where
  | stated {field : Field} {part : Tree} {held : Json} : fieldOf fields key = some field →
      tree.stated? key = some part → readShape field.shape room part = .ok held →
      Finds fields room tree key (some held)
  | absent {field : Field} {held : Json} : fieldOf fields key = some field →
      tree.stated? key = none → field.absence.ofKey? = some held →
      Finds fields room tree key (some held)
  | other {part : Tree} {held : Json} : fieldOf fields key = none →
      tree.stated? key = some part → part.value room = .ok held →
      Finds fields room tree key (some held)
  | nothing : fieldOf fields key = none → tree.stated? key = none →
      Finds fields room tree key none

/-- A record that keeps all members has its fields in their places, all others after them, and
under every key what the tree states. -/
theorem readShape_finds {name : String} {fields : List Field} {room : Nat} {tree : Tree}
    {value : Json} (distinct : (fields.map Field.key).Nodup)
    (read : readShape (.record name fields true) (room + 1) tree = .ok value) :
    ∃ members rest, value = .object (members ++ rest) ∧ Laid fields members rest ∧
      ∀ key, Finds fields room tree key (lookup key (members ++ rest)) := by
  rcases tree_of_readShape rfl (fun _ => rfl) read with ⟨trees, close, rfl⟩ | ⟨trees, close, rfl⟩
  · rw [readShape] at read
    cases read
  · rw [readShape] at read
    simp only [Shape.base] at read
    obtain ⟨inner, ⟨⟩, read⟩ := bind_eq_ok.mp read
    obtain ⟨⟨met, rest⟩, each, read⟩ := bind_eq_ok.mp read
    obtain ⟨_, _, read⟩ := bind_eq_ok.mp read
    obtain ⟨members, completed, read⟩ := bind_eq_ok.mp read
    cases read
    have laid : Laid fields members (sortMembers rest) :=
      { named := complete_named completed
        distinct
        unknown := fun member found =>
          ((readMembers_origin each).2 member (mem_of_mem_sortMembers found)).1
        ascending := ascending_sortMembers rest }
    refine ⟨members, sortMembers rest, rfl, laid, fun key => ?_⟩
    cases known : fieldOf fields key with
    | some field =>
        obtain ⟨member, rfl⟩ := mem_of_fieldOf known
        rw [laid.lookup_known known]
        obtain ⟨held, found, origin⟩ := lookup_complete distinct completed member
        rw [found]
        rcases readMembers_field known each with ⟨unstated, unmet⟩ |
          ⟨-, part, own, stated, reads, ownMet⟩
        · rw [unmet] at origin
          rcases origin with impossible | ⟨-, absent⟩
          · cases impossible
          · exact .absent known unstated absent
        · rw [ownMet] at origin
          rcases origin with same | ⟨impossible, -⟩
          · cases same
            exact .stated known stated reads
          · cases impossible
    | none =>
        rw [laid.lookup_unknown known, lookup_sortMembers]
        rcases readMembers_other known each with ⟨unstated, missing⟩ |
          ⟨part, held, stated, reads, found⟩
        · rw [missing]
          exact .nothing known unstated
        · rw [found]
          exact .other known stated reads

end NetConsole.Json
