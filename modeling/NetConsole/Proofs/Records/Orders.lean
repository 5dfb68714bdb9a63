import NetConsole.Proofs.Records.Rereading
import NetConsole.Records.Order

/-!
# Orders are read back

An order is written as an object with what it must name and whatever else is set, and nothing more.
The text of that object is read as the same order again: what was left out is read as not set.
-/

set_option autoImplicit false

namespace NetConsole

open Json

/-! ## Objects that leave fields out -/

namespace Json

/-- A flat value that is read by the shape of a field from every tree that spells it. -/
structure Field.Bears (field : Field) (value : Json) : Prop where
  flat : Json.IsFlat value
  reads : ∀ (room : Nat) (tree : Tree), tree.Spells value →
    readShape field.shape room tree = .ok value

namespace Field

theorem bears_of_scalar {field : Field} {tree : Tree} {value : Json} (flat : Json.IsFlat value)
    (reads : ReadsScalar field.shape tree value) : field.Bears value :=
  ⟨flat, fun room _ spells => (reads.of_spells spells).readShape room⟩

theorem bears_variant {key name : String} {names : List String} {absence : Absence}
    (named : name ∈ names) : (Field.mk key (.variant names) absence).Bears (.string name) := by
  refine ⟨isFlat_string name, fun room tree spells => ?_⟩
  cases spells
  have allowed : names.contains name = true := by simpa using named
  have checked : checkVariant names name = .ok (.string name) := if_pos allowed
  change readShape (.variant names) room _ = _
  rw [readShape_string, Shape.base, readScalar]
  · exact checked
  · simp

theorem bears_text (key s : String) : (Field.text key).Bears (.string s) :=
  bears_of_scalar (isFlat_string s) (@ReadsScalar.text ⟨.ok s, none⟩ s rfl)

theorem bears_text? (key s : String) : (Field.text? key).Bears (.string s) :=
  bears_of_scalar (isFlat_string s)
    (.optional Tree.noConfusion (@ReadsScalar.text ⟨.ok s, none⟩ s rfl))

theorem bears_flag? (key : String) (b : Bool) : (Field.flag? key).Bears (.bool b) :=
  bears_of_scalar (isFlat_bool b) (.optional Tree.noConfusion (.flag b))

theorem bears_integer? (key : String) {low high i : Int} (name : String) (least : IsWord low)
    (greatest : IsWord high) (within : low ≤ i ∧ i ≤ high) :
    (Field.optional key (.integer low high name)).Bears (ofInteger i) := by
  have fits : IsWord i := ⟨least.1.trans within.1, within.2.trans_lt greatest.2⟩
  exact bears_of_scalar (isFlat_integer fits) (.optional Tree.noConfusion
    (@ReadsScalar.integer ⟨.ok (.integer i), none⟩ i low high name rfl within.1 within.2))

end Field

/-- The members of an object that has a content, in the order of the fields; a field is left out
where there is none. -/
def membersOf (content : String → Option Json) (fields : List Field) : List (String × Json) :=
  fields.filterMap fun field => (content field.key).map fun value => (field.key, value)

section

variable {content : String → Option Json} {fields : List Field}

theorem mem_membersOf {member : String × Json} : member ∈ membersOf content fields ↔
    member.1 ∈ fields.map Field.key ∧ content member.1 = some member.2 := by
  obtain ⟨key, value⟩ := member
  simp only [membersOf, List.mem_filterMap, Option.map_eq_some_iff, List.mem_map, Prod.mk.injEq]
  constructor
  · rintro ⟨field, there, held, set, rfl, rfl⟩
    exact ⟨⟨field, there, rfl⟩, set⟩
  · rintro ⟨⟨field, there, rfl⟩, set⟩
    exact ⟨field, there, value, set, rfl, rfl⟩

theorem keys_membersOf_sublist :
    ((membersOf content fields).map (·.1)).Sublist (fields.map Field.key) := by
  induction fields with
  | nil => exact .slnil
  | cons field fields ih =>
      rw [membersOf, List.filterMap_cons]
      cases content field.key with
      | none => exact ih.cons _
      | some value => exact ih.cons_cons _

theorem lookup_membersOf (distinct : (fields.map Field.key).Nodup) {key : String}
    (known : key ∈ fields.map Field.key) : lookup key (membersOf content fields) = content key := by
  have nodup : ((membersOf content fields).map (·.1)).Nodup :=
    distinct.sublist keys_membersOf_sublist
  cases set : content key with
  | some value =>
      have there : (key, value) ∈ membersOf content fields := mem_membersOf.mpr ⟨known, set⟩
      exact lookup_of_mem nodup there
  | none =>
      refine lookup_eq_none fun other there same => ?_
      have found := (mem_membersOf.mp there).2
      rw [same, set] at found
      cases found

/-- What a content has for a key, `null` where it has nothing. -/
def orNull (content : String → Option Json) (key : String) : Json := (content key).getD .null

theorem heldAt_membersOf : heldAt (orNull content) ((membersOf content fields).map (·.1)) =
    membersOf content fields := by
  rw [heldAt, List.map_map]
  refine (List.map_congr_left fun member there => ?_).trans (List.map_id _)
  rw [Function.comp_apply, orNull, (mem_membersOf.mp there).2]
  rfl

/-- Of an object that leaves fields out those are met that it has. -/
theorem readMembers_membersOf {room : Nat} {trees : List (Key × Tree)}
    (distinct : (fields.map Field.key).Nodup)
    (spells : List.Forall₂ SpellsMember trees (membersOf content fields))
    (bears : ∀ field ∈ fields, ∀ value, content field.key = some value → field.Bears value) :
    readMembers fields false room [] trees = .ok (membersOf content fields, []) := by
  have known : ∀ member ∈ membersOf content fields,
      (fieldOf fields member.1).isSome = true := by
    intro member there
    obtain ⟨field, among, same⟩ := List.mem_map.mp (mem_membersOf.mp there).1
    rw [← same, fieldOf_eq_some distinct among]
    rfl
  have read := @readMembers_of_spells fields false room (orNull content) trees
    (membersOf content fields) spells ?own ?other
    (distinct.sublist keys_membersOf_sublist) [] fun _ _ => rfl
  case own =>
    intro member there field found part spellsPart
    obtain ⟨among, same⟩ := mem_of_fieldOf found
    have set := (mem_membersOf.mp there).2
    rw [orNull, set]
    exact (bears field among member.2 (same ▸ set)).reads room part spellsPart
  case other =>
    intro member there unknown
    have found := known member there
    rw [unknown] at found
    cases found
  have all : ((membersOf content fields).map (·.1)).filter
      (fun key => (fieldOf fields key).isSome) = (membersOf content fields).map (·.1) := by
    rw [List.filter_eq_self]
    simpa using known
  have none : ((membersOf content fields).map (·.1)).filter
      (fun key => (fieldOf fields key).isNone) = [] := by
    rw [List.filter_eq_nil_iff]
    simpa [← Option.isSome_iff_ne_none] using known
  rw [read, all, none, heldAt_membersOf]
  rfl

/-- An object that leaves fields out is read with all of them, those left out as `null`. -/
theorem readShape_membersOf {name : String} {room : Nat} {tree : Tree}
    (distinct : (fields.map Field.key).Nodup)
    (spells : tree.Spells (.object (membersOf content fields)))
    (bears : ∀ field ∈ fields, ∀ value, content field.key = some value → field.Bears value)
    (absent : ∀ field ∈ fields, content field.key = none →
      field.absence.ofKey? = some .null) :
    readShape (.record name fields false) (room + 1) tree =
      .ok (.object (heldAt (orNull content) (fields.map Field.key))) := by
  cases spells with
  | object keys values =>
      have read := @readMembers_membersOf content fields room _ distinct
        (Tree.spells_object.mp (.object keys values)) bears
      have completed : complete (membersOf content fields) fields =
          .ok (heldAt (orNull content) (fields.map Field.key)) := by
        refine complete_heldAt fun field member => ?_
        rw [lookup_membersOf distinct (List.mem_map_of_mem member), orNull]
        cases set : content field.key with
        | some value => exact .inl rfl
        | none => exact .inr ⟨rfl, absent field member set⟩
      rw [readShape]
      simp only [Shape.base, enter, bind, Except.bind, read, completed, Close.ofMembers, stopIf,
        pure, Except.pure, sortMembers, List.foldl_nil, List.append_nil]

theorem membersOf_cons (field : Field) : membersOf content (field :: fields) =
    memberIf field.key (content field.key) ++ membersOf content fields := by
  rw [membersOf, List.filterMap_cons]
  cases content field.key <;> rfl

variable {keys : List String} {key : String}

theorem textAt_heldAt {held : String} (known : key ∈ keys)
    (set : content key = some (.string held)) :
    textAt key (.object (heldAt (orNull content) keys)) = held := by
  simp [textAt, get?_heldAt known, orNull, set]

theorem textAt?_heldAt {held : Option String} (known : key ∈ keys)
    (set : content key = held.map .string) :
    textAt? key (.object (heldAt (orNull content) keys)) = held := by
  cases held <;> simp [textAt?, get?_heldAt known, orNull, set]

theorem flagAt?_heldAt {held : Option Bool} (known : key ∈ keys)
    (set : content key = held.map .bool) :
    flagAt? key (.object (heldAt (orNull content) keys)) = held := by
  cases held <;> simp [flagAt?, get?_heldAt known, orNull, set]

theorem integerAt?_heldAt {held : Option Int} (known : key ∈ keys)
    (set : content key = held.map ofInteger) :
    integerAt? key (.object (heldAt (orNull content) keys)) = held := by
  cases held <;> simp [integerAt?, get?_heldAt known, orNull, set, ofInteger]

end

end Json

/-! ## What is read back -/

/-- An object has the members of a content, each once, and no other. -/
structure HasExactly (content : String → Option Json) (members : List (String × Json)) : Prop where
  distinct : (members.map (·.1)).Nodup
  mem_iff : ∀ key value, (key, value) ∈ members ↔ content key = some value

/-- The text of a record is read as it again. It is the text of an object that has exactly what
there is of a content, and is read as such an object. -/
structure ReadsBack {α : Type} [Record α] (record : α) (content : String → Option Json) : Prop where
  read : Record.read (Record.write record) = .ok record
  written : ∃ members, Record.toJson record = .object members ∧ HasExactly content members
  parsed : ∃ members, parse (Record.write record) = .ok (.object members) ∧
    HasExactly content members

theorem HasExactly.sortMembers {content : String → Option Json} {members : List (String × Json)}
    (exactly : HasExactly content members) : HasExactly content (sortMembers members) where
  distinct := List.pairwise_map.mpr ((ascending_sortMembers members).imp ne_of_lt)
  mem_iff := by
    intro key value
    rw [← exactly.mem_iff]
    exact ⟨mem_of_mem_sortMembers, mem_sortMembers exactly.distinct⟩

theorem Json.IsFlat.sorted_eq_self {value : Json} (flat : IsFlat value) : value.sorted = value := by
  cases value with
  | null | bool | number | string => rfl
  | array items => cases flat.shallow
  | object members => cases flat.shallow

/-- A record that is written without the fields that are not set. -/
structure LeavesOut {α : Type} [Record α] (record : α) (name : String) (fields : List Field)
    (content : String → Option Json) : Prop where
  shaped : Record.shape α = .record name fields false
  distinct : (fields.map Field.key).Nodup
  written : Record.toJson record = .object (membersOf content fields)
  bears : ∀ field ∈ fields, ∀ value, content field.key = some value → field.Bears value
  absent : ∀ field ∈ fields, content field.key = none → field.absence.ofKey? = some .null
  named : ∀ key value, content key = some value → key ∈ fields.map Field.key
  restored : Record.ofJson (.object (heldAt (orNull content) (fields.map Field.key))) = record

theorem LeavesOut.readsBack {α : Type} [Record α] {record : α} {name : String} {fields : List Field}
    {content : String → Option Json} (leaves : LeavesOut record name fields content) :
    ReadsBack record content := by
  -- flat values neither nest nor have members to be sorted
  have flat : ∀ member ∈ membersOf content fields, IsFlat member.2 := by
    intro member there
    obtain ⟨known, set⟩ := mem_membersOf.mp there
    obtain ⟨field, among, same⟩ := List.mem_map.mp known
    exact (leaves.bears field among member.2 (same ▸ set)).flat
  have integral : IsIntegral (.object (membersOf content fields)) :=
    ⟨trivial, everyMember_iff.mpr fun member there => (flat member there).integral⟩
  have shallow : (Json.object (membersOf content fields)).depth ≤ maxDepth := by
    have none : membersDepth (membersOf content fields) ≤ 0 :=
      membersDepth_le.mpr fun member there => (flat member there).shallow.le
    rw [depth, Nat.le_zero.mp none]
    decide
  have exactly : HasExactly content (membersOf content fields) := by
    refine ⟨leaves.distinct.sublist keys_membersOf_sublist, fun key value => ?_⟩
    rw [mem_membersOf]
    exact ⟨fun both => both.2, fun set => ⟨leaves.named key value set, set⟩⟩
  constructor
  case read =>
    obtain ⟨root, document, spells⟩ := document_compact integral
    have read : readShape (Record.shape α) maxDepth root =
        .ok (.object (heldAt (orNull content) (fields.map Field.key))) := by
      rw [leaves.shaped]
      exact readShape_membersOf leaves.distinct spells leaves.bears leaves.absent
    rw [Record.read, Record.write, leaves.written, parseAs, document, Document.read]
    simp only [read, bind, Except.bind]
    exact congrArg Except.ok leaves.restored
  case written => exact ⟨_, leaves.written, exactly⟩
  case parsed =>
    have same : sortedMembers (membersOf content fields) = membersOf content fields := by
      rw [sortedMembers_eq_map]
      refine (List.map_congr_left fun member there => ?_).trans (List.map_id _)
      rw [(flat member there).sorted_eq_self]
      rfl
    refine ⟨_, ?_, exactly.sortMembers⟩
    rw [Record.write, leaves.written, parse_compact integral shallow, sorted, same]

/-! ## The orders -/

/-- The fields of a record; none for a shape of anything else. -/
def Json.Shape.fields : Shape → List Json.Field
  | .record _ fields _ => fields
  | _ => []

/-- What an order to the device manager must name. -/
def DeviceOrder.content (order : DeviceOrder) : String → Option Json
  | "cmd" => some (.string order.action.name)
  | "mac" => some (.string order.mac)
  | _ => none

/-- What an order to the station manager must name, and the limits that are set. -/
def StationOrder.content (order : StationOrder) : String → Option Json
  | "cmd" => some (.string order.action.name)
  | "mac" => some (.string order.mac)
  | "minutes" => order.limits.minutes.map ofInteger
  | "up" => order.limits.up.map ofInteger
  | "down" => order.limits.down.map ofInteger
  | "bytes" => order.limits.bytes.map ofInteger
  | "ap_mac" => order.limits.accessPoint.map .string
  | _ => none

/-- What a change of a device record sets. -/
def DeviceChange.content (change : DeviceChange) : String → Option Json
  | "disabled" => change.disabled.map .bool
  | "name" => change.name.map .string
  | _ => none

/-- Limits are kept as words without a sign: of 32 bits, and of 64 for the quota. -/
structure GuestLimits.AreWords (limits : GuestLimits) : Prop where
  minutes : ∀ i, limits.minutes = some i → 0 ≤ i ∧ i < Decimal.words32
  up : ∀ i, limits.up = some i → 0 ≤ i ∧ i < Decimal.words32
  down : ∀ i, limits.down = some i → 0 ≤ i ∧ i < Decimal.words32
  bytes : ∀ i, limits.bytes = some i → 0 ≤ i ∧ i < Decimal.words64

theorem DeviceAction.ofName?_name (action : DeviceAction) : ofName? action.name = some action := by
  cases action <;> decide

theorem StationAction.ofName?_name (action : StationAction) : ofName? action.name = some action := by
  cases action <;> decide

theorem DeviceOrder.leavesOut (order : DeviceOrder) :
    LeavesOut order "DevMgrCommand" shape.fields order.content where
  shaped := rfl
  distinct := by decide
  written := rfl
  bears := by
    have action : order.action.name ∈ DeviceAction.every.map (·.name) := by
      cases order.action <;> decide
    rw [shape, Shape.fields]
    simp only [List.forall_mem_cons]
    refine ⟨?action, ?mac, nofun⟩
    case action =>
      rintro value ⟨⟩
      exact Field.bears_variant action
    case mac =>
      rintro value ⟨⟩
      exact Field.bears_text "mac" order.mac
  absent := by
    rw [shape, Shape.fields]
    simp only [List.forall_mem_cons]
    exact ⟨nofun, nofun, nofun⟩
  named := by
    intro key value set
    unfold content at set
    split at set
    case h_3 => cases set
    all_goals decide
  restored := by
    have action := textAt_heldAt (by decide : "cmd" ∈ shape.fields.map Field.key)
      (rfl : order.content "cmd" = _)
    have mac := textAt_heldAt (by decide : "mac" ∈ shape.fields.map Field.key)
      (rfl : order.content "mac" = _)
    simp only [Record.ofJson, ofJson, action, mac, DeviceAction.ofName?_name]
    rfl

theorem StationOrder.leavesOut {order : StationOrder} (words : order.limits.AreWords) :
    LeavesOut order "StaMgrCommand" shape.fields order.content where
  shaped := rfl
  distinct := by decide
  written := by
    rw [shape, Shape.fields]
    simp only [membersOf_cons, ← List.append_assoc]
    exact congrArg object (List.append_nil _).symm
  bears := by
    have action : order.action.name ∈ StationAction.every.map (·.name) := by
      cases order.action <;> decide
    have limit (key : String) {word : Option Int}
        (isWord : ∀ i, word = some i → 0 ≤ i ∧ i < Decimal.words32) (value : Json)
        (set : word.map ofInteger = some value) : (Field.optional key .word32).Bears value := by
      obtain ⟨i, there, rfl⟩ := Option.map_eq_some_iff.mp set
      obtain ⟨least, below⟩ := isWord i there
      exact Field.bears_integer? key "u32" (by decide) (by decide) ⟨least, by omega⟩
    rw [shape, Shape.fields]
    simp only [List.forall_mem_cons]
    refine ⟨?action, ?mac, limit "minutes" words.minutes, limit "up" words.up,
      limit "down" words.down, ?quota, ?place, nofun⟩
    case action =>
      rintro value ⟨⟩
      exact Field.bears_variant action
    case mac =>
      rintro value ⟨⟩
      exact Field.bears_text "mac" order.mac
    case quota =>
      intro value set
      obtain ⟨i, there, rfl⟩ := Option.map_eq_some_iff.mp set
      obtain ⟨least, below⟩ := words.bytes i there
      exact Field.bears_integer? "bytes" "u64" (by decide) (by decide) ⟨least, by omega⟩
    case place =>
      intro value set
      obtain ⟨address, -, rfl⟩ := Option.map_eq_some_iff.mp set
      exact Field.bears_text? "ap_mac" address
  absent := by
    rw [shape, Shape.fields]
    simp only [List.forall_mem_cons]
    exact ⟨nofun, nofun, fun _ => rfl, fun _ => rfl, fun _ => rfl, fun _ => rfl, fun _ => rfl, nofun⟩
  named := by
    intro key value set
    unfold content at set
    split at set
    case h_8 => cases set
    all_goals decide
  restored := by
    have action := textAt_heldAt (by decide : "cmd" ∈ shape.fields.map Field.key)
      (rfl : order.content "cmd" = _)
    have mac := textAt_heldAt (by decide : "mac" ∈ shape.fields.map Field.key)
      (rfl : order.content "mac" = _)
    have minutes := integerAt?_heldAt (by decide : "minutes" ∈ shape.fields.map Field.key)
      (rfl : order.content "minutes" = _)
    have up := integerAt?_heldAt (by decide : "up" ∈ shape.fields.map Field.key)
      (rfl : order.content "up" = _)
    have down := integerAt?_heldAt (by decide : "down" ∈ shape.fields.map Field.key)
      (rfl : order.content "down" = _)
    have quota := integerAt?_heldAt (by decide : "bytes" ∈ shape.fields.map Field.key)
      (rfl : order.content "bytes" = _)
    have place := textAt?_heldAt (by decide : "ap_mac" ∈ shape.fields.map Field.key)
      (rfl : order.content "ap_mac" = _)
    simp only [Record.ofJson, ofJson, action, mac, minutes, up, down, quota, place,
      StationAction.ofName?_name]
    rfl

theorem DeviceChange.leavesOut (change : DeviceChange) :
    LeavesOut change "DeviceUpdate" shape.fields change.content where
  shaped := rfl
  distinct := by decide
  written := by
    rw [shape, Shape.fields]
    simp only [membersOf_cons, ← List.append_assoc]
    exact congrArg object (List.append_nil _).symm
  bears := by
    rw [shape, Shape.fields]
    simp only [List.forall_mem_cons]
    refine ⟨?switch, ?label, nofun⟩
    case switch =>
      intro value set
      obtain ⟨disabled, -, rfl⟩ := Option.map_eq_some_iff.mp set
      exact Field.bears_flag? "disabled" disabled
    case label =>
      intro value set
      obtain ⟨name, -, rfl⟩ := Option.map_eq_some_iff.mp set
      exact Field.bears_text? "name" name
  absent := by
    rw [shape, Shape.fields]
    simp only [List.forall_mem_cons]
    exact ⟨fun _ => rfl, fun _ => rfl, nofun⟩
  named := by
    intro key value set
    unfold content at set
    split at set
    case h_3 => cases set
    all_goals decide
  restored := by
    have disabled := flagAt?_heldAt (by decide : "disabled" ∈ shape.fields.map Field.key)
      (rfl : change.content "disabled" = _)
    have name := textAt?_heldAt (by decide : "name" ∈ shape.fields.map Field.key)
      (rfl : change.content "name" = _)
    simp only [Record.ofJson, ofJson, disabled, name]

end NetConsole
