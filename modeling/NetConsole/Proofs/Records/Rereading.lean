import NetConsole.Proofs.Json.RoundTrip
import NetConsole.Proofs.Records.Fields

/-!
# Reading a record again

A value that was read by the shape of a record is read again as it was, by the same shape, however
the members of its objects are ordered. This holds of the shapes that records are made of: of
scalars at once, and of lists and records when it holds of their items and fields.
-/

set_option autoImplicit false

namespace NetConsole.Json

/-! ## Settled values -/

/-- A value that is read by a shape from every tree that spells it, or spells one that differs from
it in the order of members only. -/
structure Settled (shape : Shape) (room : Nat) (value : Json) : Prop where
  distinct : IsDistinct value
  again : ∀ (tree : Tree) (other : Json), tree.Spells other → IsDistinct other →
    other.sorted = value.sorted → readShape shape room tree = .ok value

/-- Whatever is read by a shape is settled, from some room on. -/
def Shape.Steady (least : Nat) (shape : Shape) : Prop :=
  ∀ (room : Nat) (tree : Tree) (value : Json), least ≤ room →
    readShape shape room tree = .ok value → Settled shape room value

theorem eq_of_sorted_scalar {value other : Json} (shallow : value.depth = 0)
    (same : other.sorted = value.sorted) : other = value := by
  cases value with
  | array | object => cases shallow
  | null | bool | number | string =>
      cases other with
      | array | object => cases same
      | null | bool | number | string => exact same

theorem ReadsScalar.settled {shape : Shape} {tree : Tree} {value : Json}
    (reads : ReadsScalar shape tree value) (room : Nat) : Settled shape room value where
  distinct := by
    have shallow := reads.depth
    cases value with
    | null | bool | number | string => trivial
    | array | object => cases shallow
  again := by
    intro other spelled spells _ same
    obtain rfl := eq_of_sorted_scalar reads.depth same
    exact (reads.of_spells spells).readShape room

theorem Shape.Scalar.steady {shape : Shape} (scalar : shape.Scalar) (least : Nat) :
    shape.Steady least :=
  fun room _ _ _ read => (scalar.reads read).settled room

theorem settled_optional_null (shape : Shape) (room : Nat) :
    Settled (.optional shape) room .null :=
  (ReadsScalar.null shape).settled room

theorem ne_null_of_spells {tree : Tree} {value : Json} (spells : tree.Spells value)
    (given : value ≠ .null) : tree ≠ .null := by
  rintro rfl
  cases spells
  exact given rfl

theorem Settled.optional {shape : Shape} {room : Nat} {value : Json}
    (settled : Settled shape room value) (given : value ≠ .null) :
    Settled (.optional shape) room value where
  distinct := settled.distinct
  again := by
    intro tree other spells distinct same
    have otherGiven : other ≠ .null := by
      rintro rfl
      cases value with
      | null => exact given rfl
      | bool | number | string | array | object => cases same
    rw [readShape_optional (ne_null_of_spells spells otherGiven)]
    exact settled.again tree other spells distinct same

theorem Shape.Steady.optional {shape : Shape} {least : Nat} (steady : shape.Steady least) :
    (Shape.optional shape).Steady least := by
  intro room tree value enough read
  by_cases absent : tree = .null
  · subst absent
    cases read
    exact settled_optional_null shape room
  · rw [readShape_optional absent] at read
    have settled := steady room tree value enough read
    by_cases nothing : value = .null
    · subst nothing
      exact settled_optional_null shape room
    · exact settled.optional nothing

/-! ## Lists -/

theorem readItems_of_settled {shape : Shape} {room : Nat} {trees : List Tree}
    {items others : List Json} (spells : List.Forall₂ Tree.Spells trees others)
    (distinct : ∀ other ∈ others, IsDistinct other)
    (same : others.map sorted = items.map sorted)
    (settled : ∀ item ∈ items, Settled shape room item) :
    readItems shape room trees = .ok items := by
  induction spells generalizing items with
  | nil =>
      obtain rfl := List.map_eq_nil_iff.mp same.symm
      rw [readItems]
  | cons first _ ih =>
      cases items with
      | nil => cases same
      | cons item items =>
          obtain ⟨here, later⟩ := List.cons_eq_cons.mp same
          obtain ⟨one, others⟩ := List.forall_mem_cons.mp distinct
          obtain ⟨own, rest⟩ := List.forall_mem_cons.mp settled
          rw [readItems, own.again _ _ first one here, ih others later rest]
          rfl

theorem Settled.list {shape : Shape} {room : Nat} {items : List Json}
    (settled : ∀ item ∈ items, Settled shape room item) :
    Settled (.list shape) (room + 1) (.array items) where
  distinct := ⟨trivial, everyItem_iff.mpr fun item member => (settled item member).distinct⟩
  again := by
    intro tree other spells distinct same
    cases other with
    | null | bool | number | string | object => cases same
    | array others =>
        cases spells with
        | array each =>
            rw [sorted, sorted, sortedItems_eq_map, sortedItems_eq_map, Json.array.injEq] at same
            have read := readItems_of_settled each (everyItem_iff.mp distinct.2) same settled
            rw [readShape]
            simp only [Shape.base, enter, bind, Except.bind, read]
            rfl

theorem Shape.Steady.list {shape : Shape} {least : Nat} (steady : shape.Steady least) :
    (Shape.list shape).Steady (least + 1) := by
  intro room tree value enough read
  obtain ⟨inner, items, rfl, rfl, each⟩ := readShape_list read
  refine Settled.list fun item member => ?_
  obtain ⟨part, -, found⟩ := each item member
  exact steady inner part item (Nat.le_of_succ_le_succ enough) found

/-! ## Records -/

/-- A field that is steady, and for whose absence a settled value stands. -/
structure Field.Steady (least : Nat) (field : Field) : Prop where
  shape : field.shape.Steady least
  absence : ∀ room value, least ≤ room → field.absence.ofKey? = some value →
    Settled field.shape room value

theorem Field.Fills.settled {least room : Nat} {tree : Tree} {field : Field}
    {member : String × Json} (fills : field.Fills room tree member)
    (steady : field.Steady least) (enough : least ≤ room) :
    Settled field.shape room member.2 := by
  rcases fills.origin with ⟨part, -, read⟩ | absent
  · exact steady.shape room part member.2 enough read
  · exact steady.absence room member.2 enough absent

/-- The names for which something holds, each with its value. -/
def heldAt (held : String → Json) (names : List String) : List (String × Json) :=
  names.map fun name => (name, held name)

theorem lookup_heldAt (held : String → Json) (names : List String) (key : String) :
    lookup key (heldAt held names) = if key ∈ names then some (held key) else none := by
  induction names with
  | nil => rfl
  | cons name rest ih =>
      rw [heldAt, List.map_cons, lookup]
      change (lookup key (heldAt held rest)).or _ = _
      rw [ih]
      by_cases later : key ∈ rest
      · rw [if_pos later, if_pos (List.mem_cons_of_mem _ later), Option.some_or]
      · rw [if_neg later, Option.none_or]
        by_cases same : name = key
        · subst same
          rw [if_pos rfl, if_pos List.mem_cons_self]
        · have absent : key ∉ name :: rest := by
            rw [List.mem_cons, not_or]
            exact ⟨Ne.symm same, later⟩
          rw [if_neg same, if_neg absent]

theorem get?_heldAt {held : String → Json} {names : List String} {key : String}
    (known : key ∈ names) : (Json.object (heldAt held names)).get? key = some (held key) := by
  rw [get?, lookup_heldAt, if_pos known]

/-- Members that are read one by one: under the keys of fields by the shapes of the fields, under
other keys as free values. -/
theorem readMembers_of_spells {fields : List Field} {keepsRest : Bool} {room : Nat}
    {held : String → Json} {trees : List (Key × Tree)} {others : List (String × Json)}
    (spells : List.Forall₂ SpellsMember trees others)
    (known : ∀ other ∈ others, ∀ field, fieldOf fields other.1 = some field →
      ∀ tree : Tree, tree.Spells other.2 →
        readShape field.shape room tree = .ok (held other.1))
    (unknown : ∀ other ∈ others, fieldOf fields other.1 = none →
      keepsRest = true ∧ ∀ tree : Tree, tree.Spells other.2 →
        tree.value room = .ok (held other.1))
    (distinct : (others.map (·.1)).Nodup) (met : List (String × Json))
    (unmet : ∀ other ∈ others, lookup other.1 met = none) :
    readMembers fields keepsRest room met trees = .ok
      (met ++ heldAt held ((others.map (·.1)).filter fun name => (fieldOf fields name).isSome),
        heldAt held ((others.map (·.1)).filter fun name => (fieldOf fields name).isNone)) := by
  induction spells generalizing met with
  | nil =>
      rw [readMembers]
      simp [heldAt]
  | @cons tree other trees others first _ ih =>
      obtain ⟨key, tree⟩ := tree
      obtain ⟨name, value⟩ := other
      obtain ⟨knownHere, known⟩ := List.forall_mem_cons.mp known
      obtain ⟨unknownHere, unknown⟩ := List.forall_mem_cons.mp unknown
      obtain ⟨fresh, distinct⟩ := List.nodup_cons.mp distinct
      obtain ⟨unmetHere, unmet⟩ := List.forall_mem_cons.mp unmet
      have named : key.text.read = .ok name := by rw [first.1.text]
      cases found : fieldOf fields name with
      | some field =>
          have read := knownHere field found tree first.2
          have later := ih known unknown distinct (met ++ [(name, held name)]) (by
            intro other member
            have apart : name ≠ other.1 := by
              rintro rfl
              exact fresh (List.mem_map.mpr ⟨other, member, rfl⟩)
            rw [lookup_append, unmet other member, lookup, lookup, if_neg apart]
            rfl)
          rw [readMembers_cons named found unmetHere read, later]
          simp [heldAt, found]
      | none =>
          obtain ⟨keeps, read⟩ := unknownHere found
          have later := ih known unknown distinct met unmet
          rw [readMembers, named]
          simp only [bind, Except.bind, found, keeps, if_true, read tree first.2]
          rw [keeps] at later
          rw [later]
          simp [heldAt, found, pure, Except.pure]

theorem complete_heldAt {held : String → Json} {met : List (String × Json)} {fields : List Field}
    (all : ∀ field ∈ fields, lookup field.key met = some (held field.key) ∨
      lookup field.key met = none ∧ field.absence.ofKey? = some (held field.key)) :
    complete met fields = .ok (heldAt held (fields.map Field.key)) := by
  induction fields with
  | nil => rfl
  | cons field fields ih =>
      obtain ⟨here, later⟩ := List.forall_mem_cons.mp all
      rcases here with found | ⟨missing, absent⟩
      · rw [complete, found, ih later]
        rfl
      · rw [complete, missing, absent, ih later]
        rfl

/-- The value under a key; `null` if there is none. -/
def valueAt (members : List (String × Json)) (key : String) : Json :=
  (lookup key members).getD .null

theorem heldAt_valueAt {members all : List (String × Json)} (distinct : (all.map (·.1)).Nodup)
    (within : ∀ member ∈ members, member ∈ all) :
    heldAt (valueAt all) (members.map (·.1)) = members := by
  rw [heldAt, List.map_map]
  refine (List.map_congr_left fun member found => ?_).trans (List.map_id members)
  rw [Function.comp_apply, valueAt, lookup_of_mem distinct (within member found)]
  rfl

/-- Members under the same keys, whose values differ in the order of members only. -/
def Rearranged (others members : List (String × Json)) : Prop :=
  ∀ key, (lookup key others).map sorted = (lookup key members).map sorted

theorem rearranged_of_sorted {others members : List (String × Json)}
    (same : (Json.object others).sorted = (Json.object members).sorted) :
    Rearranged others members := by
  intro key
  have found := congrArg (get? key) same
  rw [get?_sorted, get?_sorted] at found
  exact found

section Rearranged

variable {others members : List (String × Json)}

theorem Rearranged.mem (rearranged : Rearranged others members)
    (distinct : (others.map (·.1)).Nodup) {other : String × Json} (found : other ∈ others) :
    lookup other.1 members = some (valueAt members other.1) ∧
      other.2.sorted = (valueAt members other.1).sorted := by
  have same := rearranged other.1
  rw [lookup_of_mem distinct found] at same
  obtain ⟨held, there, sortedSame⟩ := Option.map_eq_some_iff.mp same.symm
  rw [valueAt, there]
  exact ⟨rfl, sortedSame.symm⟩

theorem Rearranged.mem_keys (rearranged : Rearranged others members) {key : String} {held : Json}
    (found : lookup key members = some held) : key ∈ others.map (·.1) := by
  have same := rearranged key
  rw [found] at same
  obtain ⟨other, there, -⟩ := Option.map_eq_some_iff.mp same
  exact List.mem_map.mpr ⟨_, mem_of_lookup there, rfl⟩

theorem Rearranged.lookup_filter (rearranged : Rearranged others members)
    (distinct : (others.map (·.1)).Nodup) {keeps : String → Bool} {key : String}
    (kept : keeps key = true) :
    lookup key (heldAt (valueAt members) ((others.map (·.1)).filter keeps)) =
      lookup key members := by
  rw [lookup_heldAt]
  by_cases there : key ∈ others.map (·.1)
  · obtain ⟨other, found, rfl⟩ := List.mem_map.mp there
    rw [if_pos (List.mem_filter.mpr ⟨there, kept⟩), (rearranged.mem distinct found).1]
  · have absent : key ∉ (others.map (·.1)).filter keeps :=
      fun within => there (List.mem_of_mem_filter within)
    rw [if_neg absent]
    cases found : lookup key members with
    | none => rfl
    | some held => exact absurd (rearranged.mem_keys found) there

end Rearranged

/-- A record's own members are what is met of it in any order. -/
theorem Laid.completes {fields : List Field} {members rest others : List (String × Json)}
    (laid : Laid fields members rest) (rearranged : Rearranged others (members ++ rest))
    (nodup : (others.map (·.1)).Nodup) :
    complete (heldAt (valueAt (members ++ rest))
      ((others.map (·.1)).filter fun name => (fieldOf fields name).isSome)) fields =
        .ok members := by
  have own : heldAt (valueAt (members ++ rest)) (fields.map Field.key) = members := by
    rw [← laid.named]
    exact heldAt_valueAt laid.nodup fun member => List.mem_append_left rest
  refine (complete_heldAt fun field member => ?_).trans (congrArg Except.ok own)
  have known := fieldOf_eq_some laid.distinct member
  have found : field.key ∈ members.map (·.1) := laid.named ▸ List.mem_map_of_mem member
  obtain ⟨held, there, named⟩ := List.mem_map.mp found
  have stands := lookup_of_mem laid.nodup (List.mem_append_left rest there)
  rw [named] at stands
  left
  rw [rearranged.lookup_filter nodup (by rw [known]; rfl), valueAt, stands]
  rfl

/-- A record's further members are what is left of it in any order. -/
theorem Laid.sorts {fields : List Field} {members rest others : List (String × Json)}
    (laid : Laid fields members rest) (rearranged : Rearranged others (members ++ rest))
    (nodup : (others.map (·.1)).Nodup) :
    sortMembers (heldAt (valueAt (members ++ rest))
      ((others.map (·.1)).filter fun name => (fieldOf fields name).isNone)) = rest := by
  refine (sortMembers_congr fun key => ?_).trans (sortMembers_eq_self laid.ascending)
  cases known : fieldOf fields key with
  | none => rw [rearranged.lookup_filter nodup (by rw [known]; rfl), laid.lookup_unknown known]
  | some field =>
      rw [lookup_heldAt, if_neg (by simp [known]), laid.lookup_rest known]

theorem Settled.record {name : String} {fields : List Field} {keepsRest : Bool} {room : Nat}
    {members rest : List (String × Json)} (laid : Laid fields members rest)
    (keeps : keepsRest = false → rest = [])
    (own : ∀ field ∈ fields, ∀ held, lookup field.key members = some held →
      Settled field.shape room held)
    (free : ∀ member ∈ rest, IsSorted member.2 ∧ member.2.depth ≤ room) :
    Settled (.record name fields keepsRest) (room + 1) (.object (members ++ rest)) := by
  constructor
  case distinct =>
    refine ⟨laid.nodup, everyMember_iff.mpr fun member found => ?_⟩
    rcases List.mem_append.mp found with first | second
    · have named : member.1 ∈ fields.map Field.key := laid.named ▸ List.mem_map_of_mem first
      obtain ⟨field, there, same⟩ := List.mem_map.mp named
      have nodup : (members.map (·.1)).Nodup := laid.named ▸ laid.distinct
      exact (own field there member.2 (same ▸ lookup_of_mem nodup first)).distinct
    · exact isDistinct_of_isSorted (free member second).1
  case again =>
    intro tree other spells distinct same
    cases other with
    | null | bool | number | string | array => cases same
    | object others =>
        have rearranged := rearranged_of_sorted same
        have nodup : (others.map (·.1)).Nodup := distinct.1
        have inner := everyMember_iff.mp distinct.2
        cases spells with
        | @object trees _ keys values =>
            have each := Tree.spells_object.mp (.object keys values)
            have known : ∀ other ∈ others, ∀ field, fieldOf fields other.1 = some field →
                ∀ tree : Tree, tree.Spells other.2 → readShape field.shape room tree =
                  .ok (valueAt (members ++ rest) other.1) := by
              intro other found field known tree spells
              obtain ⟨there, alike⟩ := rearranged.mem nodup found
              rw [laid.lookup_known known] at there
              obtain ⟨member, named⟩ := mem_of_fieldOf known
              exact (own field member _ (named ▸ there)).again tree other.2 spells
                (inner other found) alike
            have unknown : ∀ other ∈ others, fieldOf fields other.1 = none →
                keepsRest = true ∧ ∀ tree : Tree, tree.Spells other.2 →
                  tree.value room = .ok (valueAt (members ++ rest) other.1) := by
              intro other found unknown
              obtain ⟨there, alike⟩ := rearranged.mem nodup found
              rw [laid.lookup_unknown unknown] at there
              have member := mem_of_lookup there
              obtain ⟨isSorted, shallow⟩ := free _ member
              refine ⟨?_, fun tree spells => ?_⟩
              · cases keepsRest with
                | true => rfl
                | false =>
                    rw [keeps rfl] at member
                    exact absurd member List.not_mem_nil
              · rw [sorted_eq_self isSorted] at alike
                -- sorting drops nothing where no key is there twice, so the depth is the same
                have deep : other.2.depth ≤ room := by
                  rw [← depth_sorted (inner other found), alike]
                  exact shallow
                rw [Tree.value_of_spells spells deep, alike]
            have read := readMembers_of_spells each known unknown nodup [] fun _ _ => rfl
            have completed := laid.completes rearranged nodup
            have sorts := laid.sorts rearranged nodup
            rw [List.nil_append] at read
            rw [readShape]
            simp only [Shape.base, enter, bind, Except.bind, read, completed, sorts, Close.ofMembers,
              stopIf, pure, Except.pure]

theorem fills_of_lookup {room : Nat} {tree : Tree} {fields : List Field}
    {members : List (String × Json)} (distinct : (fields.map Field.key).Nodup)
    (fills : List.Forall₂ (Field.Fills room tree) fields members) {field : Field}
    (member : field ∈ fields) {held : Json} (found : lookup field.key members = some held) :
    field.Fills room tree (field.key, held) := by
  obtain ⟨other, there, filled⟩ := exists_of_mem_forall₂ fills (mem_of_lookup found)
  have own := fieldOf_eq_some distinct member
  rw [show field.key = other.key from filled.named, fieldOf_eq_some distinct there] at own
  cases own
  exact filled

theorem Shape.Steady.record {name : String} {fields : List Field} {keepsRest : Bool} {least : Nat}
    (distinct : (fields.map Field.key).Nodup) (steady : ∀ field ∈ fields, field.Steady least) :
    (Shape.record name fields keepsRest).Steady (least + 1) := by
  intro room tree value enough read
  obtain ⟨inner, members, rest, rfl, rfl, laid, fills, free, nothing⟩ :=
    readShape_laid distinct read
  refine Settled.record laid nothing (fun field member held found => ?_) fun member found => ?_
  · exact (fills_of_lookup distinct fills member found).settled (steady field member)
      (Nat.le_of_succ_le_succ enough)
  · obtain ⟨part, -, read⟩ := free member found
    exact Tree.value_sorted read

/-! ## Fields -/

theorem Shape.Steady.mono {shape : Shape} {least more : Nat} (steady : shape.Steady least)
    (above : least ≤ more) : shape.Steady more :=
  fun room tree value enough => steady room tree value (above.trans enough)

namespace Field

theorem Steady.of_default {key : String} {shape : Shape} {default : Json} {least : Nat}
    (steady : shape.Steady least)
    (settled : ∀ room, least ≤ room → Settled shape room default) :
    (Field.mk key shape (.filled default)).Steady least where
  shape := steady
  absence := by
    intro room value enough same
    cases same
    exact settled room enough

theorem Steady.of_scalar {key : String} {shape : Shape} {default : Json} (scalar : shape.Scalar)
    {tree : Tree} (reads : ReadsScalar shape tree default) (least : Nat) :
    (Field.mk key shape (.filled default)).Steady least :=
  .of_default (scalar.steady least) fun room _ => reads.settled room

@[simp] theorem steady_text (key : String) (least : Nat) : (Field.text key).Steady least where
  shape := Shape.Scalar.text.steady least
  absence := nofun

@[simp] theorem steady_textOrEmpty (key : String) (least : Nat) :
    (Field.textOrEmpty key).Steady least :=
  .of_scalar .text (@ReadsScalar.text { read := .ok "", skip := none } "" rfl) least

@[simp] theorem steady_flag (key : String) (least : Nat) : (Field.flag key).Steady least :=
  .of_scalar .flag (.flag false) least

@[simp] theorem steady_optional (key : String) {shape : Shape} {least : Nat}
    (steady : shape.Steady least) : (Field.optional key shape).Steady least :=
  .of_default steady.optional fun room _ => settled_optional_null shape room

@[simp] theorem steady_integer? (key : String) {shape : Shape} (integer : shape.IsInteger)
    (least : Nat) : (Field.optional key shape).Steady least :=
  steady_optional key (integer.scalar.steady least)

theorem steady_integer (key : String) {low high default : Int} (name : String)
    (scalar : (Shape.integer low high name).Scalar) (within : low ≤ default ∧ default ≤ high)
    (least : Nat) :
    (Field.mk key (.integer low high name) (.filled (ofInteger default))).Steady least :=
  .of_scalar scalar (@ReadsScalar.integer { read := .ok (.integer default), skip := none } default
    low high name rfl within.1 within.2) least

@[simp] theorem steady_text? (key : String) (least : Nat) : (Field.text? key).Steady least :=
  steady_optional key (Shape.Scalar.text.steady least)

@[simp] theorem steady_flag? (key : String) (least : Nat) : (Field.flag? key).Steady least :=
  steady_optional key (Shape.Scalar.flag.steady least)

/-- An absent list is read again only where there is room for an array. -/
theorem steady_list (key : String) {item : Shape} {least : Nat} (steady : item.Steady least) :
    (Field.list key item).Steady (least + 1) := by
  refine .of_default steady.list fun room enough => ?_
  obtain ⟨inner, rfl⟩ : ∃ inner, room = inner + 1 := ⟨room - 1, by omega⟩
  exact Settled.list fun _ member => absurd member List.not_mem_nil

end Field

/-! ## Trees of values -/

/-- The key that a name is written as. -/
def Key.ofName (name : String) : Key := (scanKey (name.toList.flatMap escapeChar ++ ['"'])).1

theorem Key.spells_ofName (name : String) : (Key.ofName name).Spells name := by
  obtain ⟨key, scanned, spells⟩ := scanKey_quoted name []
  rw [Key.ofName, scanned]
  exact spells

namespace Tree

mutual

/-- The tree of a text that has a value. -/
def ofValue : Json → Tree
  | .null => .null
  | .bool b => .bool b
  | .number n => .number { read := .ok n, skip := none }
  | .string s => .string { read := .ok s, skip := none }
  | .array items => .array (ofItems items) .closed
  | .object members => .object (ofMembers members) .closed

/-- The trees of items. -/
def ofItems : List Json → List Tree
  | [] => []
  | item :: rest => ofValue item :: ofItems rest

/-- The trees of members. -/
def ofMembers : List (String × Json) → List (Key × Tree)
  | [] => []
  | (name, value) :: rest => (Key.ofName name, ofValue value) :: ofMembers rest

end

theorem spells_ofValue (value : Json) : (ofValue value).Spells value := by
  induction value using Json.induction with
  | null => exact .null
  | bool b => exact .bool b
  | number n => exact .number n
  | string s => exact .string s
  | array items ih =>
      rw [ofValue]
      refine .array ?_
      induction items with
      | nil => exact .nil
      | cons item rest more =>
          obtain ⟨first, later⟩ := List.forall_mem_cons.mp ih
          exact .cons first (more later)
  | object members ih =>
      rw [ofValue]
      refine spells_object.mpr ?_
      induction members with
      | nil => exact .nil
      | cons member rest more =>
          obtain ⟨first, later⟩ := List.forall_mem_cons.mp ih
          exact .cons ⟨Key.spells_ofName member.1, first⟩ (more later)

end Tree

end NetConsole.Json
