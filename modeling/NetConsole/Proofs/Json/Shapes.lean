import NetConsole.Json.Shape
import NetConsole.Proofs.Json.Reading

/-!
# What the reader of a shape returns

A list is read from the items of an array. A record is read from the members of an object, or from
the items of an array; each of its fields is read from one of them or filled in, and what is kept
beyond its fields is read as free values.
-/

set_option autoImplicit false

namespace NetConsole.Json

open Stepwise

/-- The trees of the items of an array, or of the members of an object. -/
def Tree.parts : Tree → List Tree
  | .array items _ => items
  | .object members _ => members.map (·.2)
  | _ => []

theorem Tree.IsIntegral.parts {tree : Tree} (integral : tree.IsIntegral) :
    ∀ part ∈ tree.parts, part.IsIntegral := by
  cases tree with
  | array items close => exact Tree.itemsIntegral_iff.mp integral
  | object members close =>
      intro part member
      obtain ⟨entry, there, rfl⟩ := List.mem_map.mp member
      exact Tree.membersIntegral_iff.mp integral entry there
  | null | bool | number | string | broken => exact fun _ member => absurd member List.not_mem_nil

theorem Tree.mismatch_ne_ok {α : Type} (tree : Tree) (expected : String) (value : α) :
    tree.mismatch expected ≠ .ok value := by
  intro read
  unfold Tree.mismatch at read
  obtain ⟨_, _, thrown⟩ := bind_eq_ok.mp read
  cases thrown

theorem parseAs_eq_ok {shape : Shape} {text : String} {value : Json}
    (read : parseAs shape text = .ok value) :
    readShape shape maxDepth (Document.ofChars text.toList).root = .ok value := by
  obtain ⟨result, shaped, ended⟩ := bind_eq_ok.mp read
  dsimp only at ended
  split at ended
  · cases ended
  · cases ended
    exact shaped

/-! ## Lists -/

theorem mem_of_readItems {shape : Shape} {room : Nat} {trees : List Tree} {items : List Json}
    (read : readItems shape room trees = .ok items) :
    ∀ item ∈ items, ∃ tree ∈ trees, readShape shape room tree = .ok item := by
  induction trees generalizing items with
  | nil =>
      rw [readItems] at read
      cases read
      exact fun _ member => absurd member List.not_mem_nil
  | cons tree trees ih =>
      rw [readItems] at read
      obtain ⟨item, first, read⟩ := bind_eq_ok.mp read
      obtain ⟨rest, others, read⟩ := bind_eq_ok.mp read
      cases read
      refine List.forall_mem_cons.mpr ⟨⟨tree, List.mem_cons_self, first⟩, fun other member => ?_⟩
      obtain ⟨source, there, found⟩ := ih others other member
      exact ⟨source, List.mem_cons_of_mem _ there, found⟩

/-- A value with parts is read from a tree with parts. -/
theorem tree_of_readShape {shape : Shape} {room : Nat} {tree : Tree} {value : Json}
    (due : shape.base.1 = false)
    (composed : ∀ tree : Tree, readScalar shape.base.2 tree = tree.mismatch shape.base.2.expected)
    (read : readShape shape room tree = .ok value) :
    (∃ trees close, tree = .array trees close) ∨ ∃ trees close, tree = .object trees close := by
  cases tree with
  | array trees close => exact .inl ⟨trees, close, rfl⟩
  | object trees close => exact .inr ⟨trees, close, rfl⟩
  | null =>
      rw [readShape, due, composed] at read
      exact absurd read (Tree.mismatch_ne_ok _ _ _)
  | bool b | number scan | string scan | broken reason =>
      rw [readShape, composed] at read
      · exact absurd read (Tree.mismatch_ne_ok _ _ _)
      all_goals simp

theorem readShape_list {item : Shape} {room : Nat} {tree : Tree} {value : Json}
    (read : readShape (.list item) room tree = .ok value) :
    ∃ inner items, room = inner + 1 ∧ value = .array items ∧
      ∀ one ∈ items, ∃ part ∈ tree.parts, readShape item inner part = .ok one := by
  rcases tree_of_readShape rfl (fun _ => rfl) read with ⟨trees, close, rfl⟩ | ⟨trees, close, rfl⟩
  · rw [readShape] at read
    simp only [Shape.base] at read
    obtain ⟨inner, entered, read⟩ := bind_eq_ok.mp read
    obtain ⟨items, each, read⟩ := bind_eq_ok.mp read
    obtain ⟨_, _, read⟩ := bind_eq_ok.mp read
    cases read
    exact ⟨inner, items, Tree.enter_eq_ok.mp entered, rfl, mem_of_readItems each⟩
  · rw [readShape] at read
    cases read

/-! ## Records -/

/-- A member for a field: one that is read from a part of a tree, or what the absence of the field
means. -/
structure Field.Fills (room : Nat) (tree : Tree) (field : Field) (member : String × Json) : Prop where
  named : member.1 = field.key
  origin : (∃ part ∈ tree.parts, readShape field.shape room part = .ok member.2) ∨
    field.absence.ofKey? = some member.2

theorem mem_of_lookup {key : String} {members : List (String × Json)} {value : Json}
    (found : lookup key members = some value) : (key, value) ∈ members := by
  induction members with
  | nil => cases found
  | cons member rest ih =>
      obtain ⟨k, v⟩ := member
      rw [lookup] at found
      cases later : lookup key rest with
      | some other =>
          rw [later] at found
          cases found
          exact List.mem_cons_of_mem _ (ih later)
      | none =>
          rw [later, Option.none_or] at found
          split at found
          case isTrue same =>
            cases found
            cases same
            exact List.mem_cons_self
          case isFalse => cases found

theorem fieldOf_eq_some {fields : List Field} (distinct : (fields.map Field.key).Nodup)
    {field : Field} (member : field ∈ fields) : fieldOf fields field.key = some field := by
  induction fields with
  | nil => cases member
  | cons head rest ih =>
      obtain ⟨fresh, others⟩ := List.nodup_cons.mp distinct
      rw [fieldOf, List.find?_cons]
      rcases List.mem_cons.mp member with rfl | later
      · rw [beq_self_eq_true]
      · have other : (head.key == field.key) = false := by
          rw [beq_eq_false_iff_ne]
          intro same
          exact fresh (same ▸ List.mem_map_of_mem later)
        rw [other]
        exact ih others later

/-- A field has what was met for it, or else what its absence means. -/
theorem complete_cons {met members : List (String × Json)} {field : Field} {fields : List Field}
    (completed : complete met (field :: fields) = .ok members) :
    ∃ held rest, members = (field.key, held) :: rest ∧ complete met fields = .ok rest ∧
      (lookup field.key met = some held ∨
        lookup field.key met = none ∧ field.absence.ofKey? = some held) := by
  rw [complete] at completed
  cases found : lookup field.key met with
  | some held =>
      rw [found] at completed
      obtain ⟨_, ⟨⟩, completed⟩ := bind_eq_ok.mp completed
      obtain ⟨rest, later, completed⟩ := bind_eq_ok.mp completed
      cases completed
      exact ⟨held, rest, rfl, later, .inl rfl⟩
  | none =>
      rw [found] at completed
      dsimp only at completed
      cases absent : field.absence.ofKey? with
      | none =>
          rw [absent] at completed
          cases completed
      | some held =>
          rw [absent] at completed
          obtain ⟨_, ⟨⟩, completed⟩ := bind_eq_ok.mp completed
          obtain ⟨rest, later, completed⟩ := bind_eq_ok.mp completed
          cases completed
          exact ⟨held, rest, rfl, later, .inr ⟨rfl, rfl⟩⟩

theorem fills_of_complete {room : Nat} {tree : Tree} {met : List (String × Json)}
    {fields : List Field} {members : List (String × Json)}
    (origin : ∀ field ∈ fields, ∀ value, lookup field.key met = some value →
      ∃ part ∈ tree.parts, readShape field.shape room part = .ok value)
    (read : complete met fields = .ok members) :
    List.Forall₂ (Field.Fills room tree) fields members := by
  induction fields generalizing members with
  | nil =>
      cases read
      exact .nil
  | cons field fields ih =>
      obtain ⟨first, later⟩ := List.forall_mem_cons.mp origin
      obtain ⟨held, rest, rfl, others, filled⟩ := complete_cons read
      refine .cons ⟨rfl, ?_⟩ (ih later others)
      rcases filled with found | ⟨-, absent⟩
      · exact .inl (first held found)
      · exact .inr absent

theorem readMembers_cons {fields : List Field} {keepsRest : Bool} {room : Nat}
    {met : List (String × Json)} {key : Key} {tree : Tree} {more : List (Key × Tree)}
    {name : String} {field : Field} {value : Json} (named : key.text.read = .ok name)
    (known : fieldOf fields name = some field) (unmet : lookup name met = none)
    (read : readShape field.shape room tree = .ok value) :
    readMembers fields keepsRest room met ((key, tree) :: more) =
      readMembers fields keepsRest room (met ++ [(name, value)]) more := by
  rw [readMembers, named]
  simp only [bind, Except.bind, known, unmet, read]
  rfl

/-- A member is read as the field that it names, or kept as a free value under a key of no field, or
passed over. -/
theorem readMembers_cases {fields : List Field} {keepsRest : Bool} {room : Nat}
    {met result rest : List (String × Json)} {key : Key} {tree : Tree} {trees : List (Key × Tree)}
    (read : readMembers fields keepsRest room met ((key, tree) :: trees) = .ok (result, rest)) :
    (∃ name field value, fieldOf fields name = some field ∧
      readShape field.shape room tree = .ok value ∧
      readMembers fields keepsRest room (met ++ [(name, value)]) trees = .ok (result, rest)) ∨
    (∃ name value more, keepsRest = true ∧ fieldOf fields name = none ∧
      tree.value room = .ok value ∧ rest = (name, value) :: more ∧
      readMembers fields keepsRest room met trees = .ok (result, more)) ∨
    readMembers fields keepsRest room met trees = .ok (result, rest) := by
  rw [readMembers] at read
  obtain ⟨name, _, read⟩ := bind_eq_ok.mp read
  cases known : fieldOf fields name with
  | some field =>
      rw [known] at read
      dsimp only at read
      split at read
      · cases read
      obtain ⟨value, first, read⟩ := bind_eq_ok.mp read
      exact .inl ⟨name, field, value, known, first, read⟩
  | none =>
      rw [known] at read
      dsimp only at read
      split at read
      case isTrue keeps =>
        obtain ⟨value, first, read⟩ := bind_eq_ok.mp read
        obtain ⟨⟨others, more⟩, later, read⟩ := bind_eq_ok.mp read
        cases read
        exact .inr (.inl ⟨name, value, more, keeps, known, first, rfl, later⟩)
      case isFalse =>
        obtain ⟨_, _, read⟩ := bind_eq_ok.mp read
        exact .inr (.inr read)

theorem readMembers_rest {fields : List Field} {room : Nat}
    {met result rest : List (String × Json)} {trees : List (Key × Tree)}
    (read : readMembers fields false room met trees = .ok (result, rest)) : rest = [] := by
  induction trees generalizing met with
  | nil =>
      rw [readMembers] at read
      cases read
      rfl
  | cons tree trees ih =>
      rcases readMembers_cases read with ⟨_, _, _, _, _, later⟩ | ⟨_, _, _, keeps, _⟩ | later
      · exact ih later
      · cases keeps
      · exact ih later

/-- The fields that are met are read by their shapes; what is kept beyond them is read as free
values, under keys of no field. -/
theorem readMembers_origin {fields : List Field} {keepsRest : Bool} {room : Nat}
    {met result rest : List (String × Json)} {trees : List (Key × Tree)}
    (read : readMembers fields keepsRest room met trees = .ok (result, rest)) :
    (∀ member ∈ result, member ∈ met ∨ ∃ part ∈ trees.map (·.2), ∃ field,
      fieldOf fields member.1 = some field ∧ readShape field.shape room part = .ok member.2) ∧
    (∀ member ∈ rest, fieldOf fields member.1 = none ∧
      ∃ part ∈ trees.map (·.2), part.value room = .ok member.2) := by
  induction trees generalizing met result rest with
  | nil =>
      rw [readMembers] at read
      cases read
      exact ⟨fun _ => .inl, fun _ member => absurd member List.not_mem_nil⟩
  | cons tree trees ih =>
      obtain ⟨key, tree⟩ := tree
      rcases readMembers_cases read with ⟨name, field, value, known, first, later⟩ |
        ⟨name, value, more, -, unknown, first, rfl, later⟩ | later
      · obtain ⟨fromMet, fromRest⟩ := ih later
        constructor
        · intro member found
          rcases fromMet member found with before | ⟨part, there, origin⟩
          · rcases List.mem_append.mp before with earlier | last
            · exact .inl earlier
            · cases List.mem_singleton.mp last
              exact .inr ⟨tree, List.mem_cons_self, field, known, first⟩
          · exact .inr ⟨part, List.mem_cons_of_mem _ there, origin⟩
        · intro member found
          obtain ⟨none, part, there, origin⟩ := fromRest member found
          exact ⟨none, part, List.mem_cons_of_mem _ there, origin⟩
      · obtain ⟨fromMet, fromRest⟩ := ih later
        constructor
        · intro member found
          rcases fromMet member found with before | ⟨part, there, origin⟩
          · exact .inl before
          · exact .inr ⟨part, List.mem_cons_of_mem _ there, origin⟩
        · refine List.forall_mem_cons.mpr
            ⟨⟨unknown, tree, List.mem_cons_self, first⟩, fun member found => ?_⟩
          obtain ⟨none, part, there, origin⟩ := fromRest member found
          exact ⟨none, part, List.mem_cons_of_mem _ there, origin⟩
      · obtain ⟨fromMet, fromRest⟩ := ih later
        constructor
        · intro member found
          rcases fromMet member found with before | ⟨part, there, origin⟩
          · exact .inl before
          · exact .inr ⟨part, List.mem_cons_of_mem _ there, origin⟩
        · intro member found
          obtain ⟨none, part, there, origin⟩ := fromRest member found
          exact ⟨none, part, List.mem_cons_of_mem _ there, origin⟩

theorem fills_of_fillPositions {tree : Tree} {room : Nat} {name : String} {count position : Nat}
    {fields : List Field} {members : List (String × Json)}
    (read : readPositions.fillPositions name count position fields = .ok members) :
    List.Forall₂ (Field.Fills room tree) fields members := by
  induction fields generalizing position members with
  | nil =>
      cases read
      exact .nil
  | cons field fields ih =>
      rw [readPositions.fillPositions] at read
      cases absent : field.absence.ofPosition? with
      | none =>
          rw [absent] at read
          cases read
      | some value =>
          rw [absent] at read
          dsimp only at read
          obtain ⟨rest, others, read⟩ := bind_eq_ok.mp read
          cases read
          refine .cons ⟨rfl, .inr ?_⟩ (ih others)
          cases absence : field.absence with
          | refused | null =>
              rw [absence] at absent
              cases absent
          | filled default =>
              rw [absence] at absent
              exact absent

theorem fills_of_readPositions {tree : Tree} {room : Nat} {name : String} {count : Nat}
    {close : Close} {fields : List Field} {trees : List Tree} {members : List (String × Json)}
    (within : ∀ part ∈ trees, part ∈ tree.parts)
    (read : readPositions name count room close fields trees = .ok members) :
    List.Forall₂ (Field.Fills room tree) fields members := by
  induction fields generalizing trees members with
  | nil =>
      cases trees with
      | nil =>
          rw [readPositions] at read
          obtain ⟨_, _, read⟩ := bind_eq_ok.mp read
          cases read
          exact .nil
      | cons part trees =>
          rw [readPositions] at read
          cases read
  | cons field fields ih =>
      cases trees with
      | nil =>
          rw [readPositions] at read
          · obtain ⟨_, _, read⟩ := bind_eq_ok.mp read
            exact fills_of_fillPositions read
          · simp
      | cons part trees =>
          rw [readPositions] at read
          obtain ⟨value, first, read⟩ := bind_eq_ok.mp read
          obtain ⟨rest, others, read⟩ := bind_eq_ok.mp read
          cases read
          obtain ⟨here, later⟩ := List.forall_mem_cons.mp within
          exact .cons ⟨rfl, .inl ⟨part, here, first⟩⟩ (ih later others)

/-- The fields of a record are each read from a part of a tree, one level further in, or filled in;
what it keeps beyond them is read as free values. -/
theorem readShape_record {name : String} {fields : List Field} {keepsRest : Bool} {room : Nat}
    {tree : Tree} {value : Json} (distinct : (fields.map Field.key).Nodup)
    (read : readShape (.record name fields keepsRest) room tree = .ok value) :
    ∃ inner members rest, room = inner + 1 ∧ value = .object (members ++ sortMembers rest) ∧
      List.Forall₂ (Field.Fills inner tree) fields members ∧
      (∀ member ∈ rest, fieldOf fields member.1 = none ∧
        ∃ part ∈ tree.parts, part.value inner = .ok member.2) ∧
      (keepsRest = false → rest = []) := by
  rcases tree_of_readShape rfl (fun _ => rfl) read with ⟨trees, close, rfl⟩ | ⟨trees, close, rfl⟩
  · rw [readShape] at read
    simp only [Shape.base] at read
    cases keepsRest with
    | true => cases read
    | false =>
        obtain ⟨inner, entered, read⟩ := bind_eq_ok.mp read
        obtain ⟨members, each, read⟩ := bind_eq_ok.mp read
        cases read
        refine ⟨inner, members, [], Tree.enter_eq_ok.mp entered, ?_,
          fills_of_readPositions (fun _ there => there) each,
          fun _ there => absurd there List.not_mem_nil, fun _ => rfl⟩
        rw [sortMembers, List.foldl_nil, List.append_nil]
  · rw [readShape] at read
    simp only [Shape.base] at read
    obtain ⟨inner, entered, read⟩ := bind_eq_ok.mp read
    obtain ⟨⟨met, rest⟩, each, read⟩ := bind_eq_ok.mp read
    obtain ⟨_, _, read⟩ := bind_eq_ok.mp read
    obtain ⟨members, completed, read⟩ := bind_eq_ok.mp read
    cases read
    obtain ⟨fromMet, fromRest⟩ := readMembers_origin each
    refine ⟨inner, members, rest, Tree.enter_eq_ok.mp entered, rfl, ?_, fromRest, ?_⟩
    case refine_2 =>
      intro keepsNone
      subst keepsNone
      exact readMembers_rest each
    refine fills_of_complete (fun field member value found => ?_) completed
    rcases fromMet _ (mem_of_lookup found) with before | ⟨part, there, own, known, origin⟩
    · exact absurd before List.not_mem_nil
    · rw [fieldOf_eq_some distinct member] at known
      cases known
      exact ⟨part, there, origin⟩

end NetConsole.Json
