import NetConsole.Proofs.Records.Rereading
import NetConsole.Records.Device

/-!
# Records keep what was sent

A record of the controller is written with every member that its text states: the fields under
their keys, what has other keys after them, and nothing else but the defaults of the fields that
were absent. When it is read again it is the same record.
-/

set_option autoImplicit false

namespace NetConsole

open Json Stepwise

/-! ## Writing what was read -/

namespace Json

/-- What is read by a shape is written again as it was. -/
def Shape.WrittenBack {α : Type} (shape : Shape) (ofJson : Json → α) (toJson : α → Json) : Prop :=
  ∀ (room : Nat) (tree : Tree) (value : Json),
    readShape shape room tree = .ok value → toJson (ofJson value) = value

namespace Field

@[simp] theorem key_optional (key : String) (shape : Shape) :
    (Field.optional key shape).key = key := rfl

@[simp] theorem key_list (key : String) (item : Shape) : (Field.list key item).key = key := rfl

/-- A value that a field can have. -/
def Takes (field : Field) (value : Json) : Prop :=
  (∃ room tree, readShape field.shape room tree = .ok value) ∨
    field.absence.ofKey? = some value

/-- What is written for a field is the member that a value has for it. -/
def Restores (value : Json) (field : Field) (member : String × Json) : Prop :=
  ∀ held, value.get? field.key = some held → field.Takes held → member = (field.key, held)

theorem Takes.scalar {field : Field} {shape : Shape} (scalar : shape.Scalar)
    (shaped : field.shape = shape)
    (absence : ∀ value, field.absence.ofKey? = some value → ∃ tree, ReadsScalar shape tree value)
    {value : Json} (takes : field.Takes value) : ∃ tree, ReadsScalar shape tree value := by
  subst shaped
  rcases takes with ⟨room, tree, read⟩ | absent
  · exact ⟨tree, scalar.reads read⟩
  · exact absence value absent

theorem Takes.optional {key : String} {shape : Shape} {held : Json}
    (takes : (Field.optional key shape).Takes held) :
    held = .null ∨ ∃ room tree, readShape shape room tree = .ok held := by
  rcases takes with ⟨room, tree, read⟩ | absent
  · by_cases nothing : tree = .null
    · subst nothing
      cases read
      exact .inl rfl
    · exact .inr ⟨room, tree, readShape_optional nothing ▸ read⟩
  · cases absent
    exact .inl rfl

variable {value : Json}

@[simp] theorem restores_text (key : String) :
    Restores value (Field.text key) (key, .string (textAt key value)) := by
  intro held found takes
  change value.get? key = some held at found
  obtain ⟨tree, reads⟩ := takes.scalar .text rfl fun _ same => by cases same
  cases reads
  rw [textAt, found]
  rfl

@[simp] theorem restores_textOrEmpty (key : String) :
    Restores value (Field.textOrEmpty key) (key, .string (textAt key value)) := by
  intro held found takes
  change value.get? key = some held at found
  obtain ⟨tree, reads⟩ := takes.scalar .text rfl fun value same => by
    cases same
    exact ⟨.string { read := .ok "", skip := none }, .text rfl⟩
  cases reads
  rw [textAt, found]
  rfl

@[simp] theorem restores_flag (key : String) :
    Restores value (Field.flag key) (key, .bool (flagAt key value)) := by
  intro held found takes
  change value.get? key = some held at found
  obtain ⟨tree, reads⟩ := takes.scalar .flag rfl fun value same => by
    cases same
    exact ⟨.bool false, .flag false⟩
  cases reads
  rw [flagAt, found]
  rfl

@[simp] theorem restores_text? (key : String) :
    Restores value (Field.text? key) (key, ofText? (textAt? key value)) := by
  intro held found takes
  change value.get? key = some held at found
  rw [textAt?, found]
  rcases Takes.optional takes with rfl | ⟨room, tree, read⟩
  · rfl
  · cases Shape.Scalar.text.reads read
    rfl

@[simp] theorem restores_flag? (key : String) :
    Restores value (Field.flag? key) (key, ofFlag? (flagAt? key value)) := by
  intro held found takes
  change value.get? key = some held at found
  rw [flagAt?, found]
  rcases Takes.optional takes with rfl | ⟨room, tree, read⟩
  · rfl
  · cases Shape.Scalar.flag.reads read
    rfl

@[simp] theorem restores_integer? (key : String) {shape : Shape} (integer : shape.IsInteger) :
    Restores value (Field.optional key shape) (key, ofInteger? (integerAt? key value)) := by
  intro held found takes
  change value.get? key = some held at found
  rw [integerAt?, found]
  rcases takes.optional with rfl | ⟨room, tree, read⟩
  · rfl
  · cases integer with
    | mk name low high =>
        cases (Shape.Scalar.integer name low high).reads read
        rfl

@[simp] theorem restores_integer (key : String) {shape : Shape} (integer : shape.IsInteger)
    (default : Int) : Restores value (.mk key shape (.filled (ofInteger default)))
      (key, ofInteger (integerAt key value)) := by
  intro held found takes
  change value.get? key = some held at found
  rw [integerAt, integerAt?, found]
  rcases takes with ⟨room, tree, read⟩ | absent
  · cases integer with
    | mk name low high =>
        cases (Shape.Scalar.integer name low high).reads read
        rfl
  · cases absent
    rfl

/-- A record or `null` that is kept as a record or nothing. -/
theorem restores_optional {α : Type} {shape : Shape} {ofJson : Json → α} {toJson : α → Json}
    (back : shape.WrittenBack ofJson toJson) (key : String) :
    Restores value (Field.optional key shape)
      (key, (((recordAt? key value).map ofJson).map toJson).getD .null) := by
  intro held found takes
  change value.get? key = some held at found
  rw [recordAt?, found]
  rcases takes.optional with rfl | ⟨room, tree, read⟩
  · rfl
  · have same := back room tree held read
    cases held with
    | null => rfl
    | bool | number | string | array | object => exact congrArg (Prod.mk key) same

theorem restores_list {α : Type} {shape : Shape} {ofJson : Json → α} {toJson : α → Json}
    (back : shape.WrittenBack ofJson toJson) (key : String) :
    Restores value (Field.list key shape)
      (key, .array (((itemsAt key value).map ofJson).map toJson)) := by
  intro held found takes
  change value.get? key = some held at found
  rw [itemsAt, found]
  rcases takes with ⟨room, tree, read⟩ | absent
  · obtain ⟨inner, items, -, rfl, each⟩ := readShape_list read
    have same : (items.map ofJson).map toJson = items := by
      rw [List.map_map]
      refine (List.map_congr_left fun item member => ?_).trans (List.map_id items)
      obtain ⟨part, -, found⟩ := each item member
      exact back inner part item found
    rw [same]
    rfl
  · cases absent
    rfl

end Field

theorem Field.Fills.takes {room : Nat} {tree : Tree} {field : Field} {member : String × Json}
    (fills : field.Fills room tree member) : field.Takes member.2 := by
  rcases fills.origin with ⟨part, -, read⟩ | absent
  · exact .inl ⟨room, part, read⟩
  · exact .inr absent

theorem eq_of_restores {value : Json} {room : Nat} {tree : Tree} {fields : List Field}
    {members others : List (String × Json)}
    (fills : List.Forall₂ (Field.Fills room tree) fields members)
    (stands : ∀ member ∈ members, value.get? member.1 = some member.2)
    (restores : List.Forall₂ (Field.Restores value) fields others) : others = members := by
  induction fills generalizing others with
  | nil =>
      cases restores
      rfl
  | @cons field member fields members first _ ih =>
      cases restores with
      | @cons _ other _ others here later =>
          obtain ⟨stood, below⟩ := List.forall_mem_cons.mp stands
          have own : other = (field.key, member.2) :=
            here member.2 (first.named ▸ stood) first.takes
          rw [ih below later, own, ← first.named]

/-- A record is written as it was read if each of its fields is. -/
theorem Shape.writtenBack_record {α : Type} {name : String} {fields : List Field}
    {keepsRest : Bool} {ofJson : Json → α} {toJson : α → Json}
    (distinct : (fields.map Field.key).Nodup)
    (written : ∀ value, ∃ members, toJson (ofJson value) =
        .object (members ++ if keepsRest then restAfter fields.length value else []) ∧
      List.Forall₂ (Field.Restores value) fields members) :
    (Shape.record name fields keepsRest).WrittenBack ofJson toJson := by
  intro room tree value read
  obtain ⟨inner, members, rest, -, rfl, laid, fills, -, nothing⟩ := readShape_laid distinct read
  obtain ⟨others, written, restores⟩ := written (.object (members ++ rest))
  have stands : ∀ member ∈ members,
      (Json.object (members ++ rest)).get? member.1 = some member.2 :=
    fun member found => lookup_of_mem laid.nodup (List.mem_append_left _ found)
  have own : others = members := eq_of_restores fills stands restores
  have left : restAfter fields.length (.object (members ++ rest)) = rest := by
    rw [restAfter, fills.length_eq]
    exact List.drop_left
  rw [written, own, left]
  cases keepsRest with
  | true => rfl
  | false =>
      rw [nothing rfl]
      rfl

end Json

/-! ## What a text says of a record -/

/-- What a text states under a key: the tree of the last member with it. -/
def statedBy (text key : String) : Option Tree :=
  (Document.ofChars text.toList).root.stated? key

/-- The record that a value holds, read as a text with the value would be. -/
def Record.ofValue {α : Type} [Record α] (value : Json) : Except Reason α :=
  (readShape (Record.shape α) maxDepth (Tree.ofValue value)).map Record.ofJson

/-- A record keeps what the text says that it was read from. Its fields are given, those of them
that are tables read by a shape of their own, and the members that it keeps beyond its fields. -/
structure Conserves {α : Type} [Record α] (fields : List Field) (tables : List String)
    (rest : α → List (String × Json)) (text : String) (record : α) : Prop where
  /-- it is written as an object, in which no object has a key twice, -/
  distinct : ∃ members, Record.toJson record = .object members ∧ IsDistinct (.object members)
  /-- with every member of the text other than the tables, as it was stated last, -/
  kept : ∀ key part, statedBy text key = some part → key ∉ tables →
    ∃ value, part.value (maxDepth - 1) = .ok value ∧
      (Record.toJson record).get? key = some value
  /-- and with every field of the text, so with the tables, as it is read by its shape, -/
  modelled : ∀ field ∈ fields, ∀ part, statedBy text field.key = some part →
    ∃ value, readShape field.shape (maxDepth - 1) part = .ok value ∧
      (Record.toJson record).get? field.key = some value
  /-- and otherwise only with fields that are absent from the text, which have their default; -/
  added : ∀ key value, (Record.toJson record).get? key = some value →
    statedBy text key = none →
      ∃ field ∈ fields, field.key = key ∧ field.absence.ofKey? = some value
  /-- the further members are those of the text that are no fields, each once; -/
  others : Ascending (rest record) ∧ ∀ key value, (key, value) ∈ rest record ↔
    key ∉ fields.map Field.key ∧
      ∃ part, statedBy text key = some part ∧ part.value (maxDepth - 1) = .ok value
  /-- and the value that is written, with its members in this order or sorted, is read as the same
  record again, -/
  reread : Record.ofValue (Record.toJson record) = .ok record ∧
    Record.ofValue (Record.toJson record).sorted = .ok record
  /-- just as its text is, unless it has a number that is no integer. -/
  rewritten : IsIntegral (Record.toJson record) → Record.read (Record.write record) = .ok record

/-- A type of records whose fields, but for some tables, are scalars, written in front of all other
members. -/
structure KeepsMembers (α : Type) [Record α] (name : String) (fields : List Field)
    (tables : List String) (rest : α → List (String × Json)) : Prop where
  shaped : Record.shape α = .record name fields true
  distinct : (fields.map Field.key).Nodup
  flat : ∀ field ∈ fields, field.IsFlat ∨ field.key ∈ tables
  steady : ∀ field ∈ fields, field.Steady 2
  written : ∀ value, ∃ members, Record.toJson (Record.ofJson value : α) =
      .object (members ++ restAfter fields.length value) ∧
    List.Forall₂ (Field.Restores value) fields members
  rest : ∀ value, rest (Record.ofJson value) = restAfter fields.length value

namespace KeepsMembers

variable {α : Type} [Record α] {name : String} {fields : List Field} {tables : List String}
  {rest : α → List (String × Json)}

theorem writtenBack (keeps : KeepsMembers α name fields tables rest) :
    (Record.shape α).WrittenBack (Record.ofJson : Json → α) Record.toJson := by
  rw [keeps.shaped]
  exact Shape.writtenBack_record keeps.distinct keeps.written

theorem settled (keeps : KeepsMembers α name fields tables rest) {tree : Tree} {value : Json}
    (read : readShape (Record.shape α) maxDepth tree = .ok value) :
    Settled (Record.shape α) maxDepth value := by
  have steady : (Record.shape α).Steady 3 := by
    rw [keeps.shaped]
    exact Shape.Steady.record keeps.distinct keeps.steady
  exact steady maxDepth tree value (by decide) read

/-- A settled value is read again, as it stands or sorted. -/
theorem rereads (keeps : KeepsMembers α name fields tables rest) {tree : Tree} {value : Json}
    (read : readShape (Record.shape α) maxDepth tree = .ok value) :
    Record.ofValue value = .ok (Record.ofJson value : α) ∧
      Record.ofValue value.sorted = .ok (Record.ofJson value : α) := by
  have settled := keeps.settled read
  have isSorted := isSorted_sorted value
  constructor
  · rw [Record.ofValue, settled.again _ value (Tree.spells_ofValue value) settled.distinct rfl]
    rfl
  · rw [Record.ofValue, settled.again _ value.sorted (Tree.spells_ofValue _)
      (isDistinct_of_isSorted isSorted) (sorted_eq_self isSorted)]
    rfl

theorem rewrites (keeps : KeepsMembers α name fields tables rest) {tree : Tree} {value : Json}
    (read : readShape (Record.shape α) maxDepth tree = .ok value)
    (integral : IsIntegral value) : parseAs (Record.shape α) value.compact = .ok value := by
  have settled := keeps.settled read
  obtain ⟨root, document, spells⟩ := document_compact integral
  rw [parseAs, document, Document.read]
  simp only [settled.again root value spells settled.distinct rfl, bind, Except.bind]
  rfl

theorem conserves (keeps : KeepsMembers α name fields tables rest) {text : String} {record : α}
    (read : Record.read text = .ok record) : Conserves fields tables rest text record := by
  obtain ⟨value, parsed, rfl⟩ := map_eq_ok read
  have shaped := parseAs_eq_ok parsed
  have whole : Record.toJson (Record.ofJson value : α) = value :=
    keeps.writtenBack maxDepth _ value shaped
  have settled := keeps.settled shaped
  have rereads := keeps.rereads shaped
  have rewrites := keeps.rewrites shaped
  have deep : readShape (.record name fields true) (maxDepth - 1 + 1)
      (Document.ofChars text.toList).root = .ok value := keeps.shaped ▸ shaped
  obtain ⟨members, others, rfl, laid, finds⟩ := readShape_finds keeps.distinct deep
  have left : rest (Record.ofJson (.object (members ++ others))) = others := by
    have length : fields.length = members.length := by
      rw [← List.length_map, ← laid.named, List.length_map]
    rw [keeps.rest, restAfter, length]
    exact List.drop_left
  constructor
  case distinct => exact ⟨members ++ others, whole, settled.distinct⟩
  case kept =>
    intro key part stated untabled
    rw [whole, get?]
    have origin := finds key
    generalize lookup key (members ++ others) = found at origin ⊢
    cases origin with
    | @stated field _ held known own origin =>
        rw [show statedBy text key = _ from own] at stated
        cases stated
        obtain ⟨member, rfl⟩ := mem_of_fieldOf known
        have flat : field.IsFlat := (keeps.flat field member).resolve_right untabled
        exact ⟨held, (flat.shape.reads origin).value _, rfl⟩
    | other _ own origin =>
        rw [show statedBy text key = _ from own] at stated
        cases stated
        exact ⟨_, origin, rfl⟩
    | absent _ unstated | nothing _ unstated =>
        rw [show statedBy text key = _ from unstated] at stated
        cases stated
  case modelled =>
    intro field member part stated
    rw [whole, get?]
    have own := fieldOf_eq_some keeps.distinct member
    have origin := finds field.key
    generalize lookup field.key (members ++ others) = found at origin ⊢
    cases origin with
    | @stated other _ held known again origin =>
        rw [show statedBy text field.key = _ from again] at stated
        rw [known] at own
        cases stated
        cases own
        exact ⟨held, origin, rfl⟩
    | other unknown | nothing unknown =>
        rw [unknown] at own
        cases own
    | absent _ unstated =>
        rw [show statedBy text field.key = _ from unstated] at stated
        cases stated
  case added =>
    intro key value found unstated
    rw [whole, get?] at found
    have origin := finds key
    rw [found] at origin
    cases origin with
    | @absent field _ known _ default =>
        obtain ⟨member, rfl⟩ := mem_of_fieldOf known
        exact ⟨field, member, rfl, default⟩
    | stated _ own | other _ own =>
        rw [show statedBy text key = _ from own] at unstated
        cases unstated
  case others =>
    rw [left]
    refine ⟨laid.ascending, fun key value => ?_⟩
    rw [laid.mem_rest, ← fieldOf_eq_none]
    refine and_congr_right fun unknown => ?_
    have origin := finds key
    generalize lookup key (members ++ others) = found at origin ⊢
    cases origin with
    | stated known | absent known =>
        rw [unknown] at known
        cases known
    | @other part held _ own origin =>
        constructor
        · rintro ⟨⟩
          exact ⟨part, own, origin⟩
        · rintro ⟨again, stated, value⟩
          rw [show statedBy text key = _ from own] at stated
          cases stated
          rw [origin] at value
          cases value
          rfl
    | nothing _ unstated =>
        constructor
        · intro impossible
          cases impossible
        · rintro ⟨part, stated, -⟩
          rw [show statedBy text key = _ from unstated] at stated
          cases stated
  case reread =>
    rw [whole]
    exact rereads
  case rewritten =>
    intro integral
    rw [whole] at integral
    rw [Record.read, Record.write, whole, rewrites integral]
    rfl

end KeepsMembers

/-! ## The tables of a device -/

theorem steady_managementNetwork : ManagementNetwork.shape.Steady 1 :=
  Shape.Steady.record (by decide) (by simp [ManagementNetwork.fields])

theorem writtenBack_managementNetwork :
    ManagementNetwork.shape.WrittenBack ManagementNetwork.ofJson Record.toJson := by
  refine Shape.writtenBack_record (by decide) fun value => ⟨(ManagementNetwork.ofJson value).members, rfl, ?_⟩
  simp [ManagementNetwork.fields, ManagementNetwork.members, ManagementNetwork.ofJson]

theorem steady_ethernetEntry : EthernetEntry.shape.Steady 1 :=
  Shape.Steady.record (by decide) (by simp [EthernetEntry.fields])

theorem writtenBack_ethernetEntry :
    EthernetEntry.shape.WrittenBack EthernetEntry.ofJson Record.toJson := by
  refine Shape.writtenBack_record (by decide) fun value => ⟨(EthernetEntry.ofJson value).members, rfl, ?_⟩
  simp [EthernetEntry.fields, EthernetEntry.members, EthernetEntry.ofJson]

theorem steady_portEntry : PortEntry.shape.Steady 1 :=
  Shape.Steady.record (by decide) (by simp [PortEntry.fields])

theorem writtenBack_portEntry : PortEntry.shape.WrittenBack PortEntry.ofJson Record.toJson := by
  refine Shape.writtenBack_record (by decide) fun value => ⟨(PortEntry.ofJson value).members, rfl, ?_⟩
  simp [PortEntry.fields, PortEntry.members, PortEntry.ofJson]

theorem steady_downlinkEntry : DownlinkEntry.shape.Steady 1 :=
  Shape.Steady.record (by decide) (by simp [DownlinkEntry.fields])

theorem writtenBack_downlinkEntry :
    DownlinkEntry.shape.WrittenBack DownlinkEntry.ofJson Record.toJson := by
  refine Shape.writtenBack_record (by decide) fun value => ⟨(DownlinkEntry.ofJson value).members, rfl, ?_⟩
  simp [DownlinkEntry.fields, DownlinkEntry.members, DownlinkEntry.ofJson]

/-! ## The records of the controller -/

/-- The fields of a device that have a shape of their own. -/
def Device.tables : List String :=
  ["config_network", "ethernet_table", "port_table", "downlink_table"]

theorem isFlat_state : (Json.Field.mk "state" .signed32 (.filled (ofInteger 0))).IsFlat where
  shape := .signed32
  absence := by
    intro _ same
    cases same
    exact isFlat_integer (by decide)

theorem steady_state :
    (Json.Field.mk "state" .signed32 (.filled (ofInteger 0))).Steady 2 :=
  Field.steady_integer "state" "i32" (.integer "i32" (by decide) (by decide)) (by decide) 2

theorem keepsMembers_alarm : KeepsMembers Alarm "Alarm" Alarm.fields [] Alarm.rest where
  shaped := rfl
  distinct := by decide
  flat := by simp [Alarm.fields]
  steady := by simp [Alarm.fields]
  written value := ⟨_, rfl, by simp [Alarm.fields, Record.ofJson, Alarm.ofJson]⟩
  rest _ := rfl

theorem keepsMembers_event : KeepsMembers Event "Event" Event.fields [] Event.rest where
  shaped := rfl
  distinct := by decide
  flat := by simp [Event.fields]
  steady := by simp [Event.fields]
  written value := ⟨_, rfl, by simp [Event.fields, Record.ofJson, Event.ofJson]⟩
  rest _ := rfl

theorem keepsMembers_device :
    KeepsMembers Device "Device" Device.fields Device.tables Device.rest where
  shaped := rfl
  distinct := by decide
  flat := by simp [Device.fields, Device.tables, isFlat_state]
  steady := by
    have network := steady_managementNetwork.mono (Nat.le_succ 1)
    have ethernet := Field.steady_list "ethernet_table" steady_ethernetEntry
    have ports := Field.steady_list "port_table" steady_portEntry
    have downlinks := Field.steady_list "downlink_table" steady_downlinkEntry
    simp [Device.fields, steady_state, network, ethernet, ports, downlinks]
  written value := by
    refine ⟨_, rfl, ?_⟩
    have network := @Field.restores_optional value _ _ _ _ writtenBack_managementNetwork
      "config_network"
    have ethernet := @Field.restores_list value _ _ _ _ writtenBack_ethernetEntry
      "ethernet_table"
    have ports := @Field.restores_list value _ _ _ _ writtenBack_portEntry "port_table"
    have downlinks := @Field.restores_list value _ _ _ _ writtenBack_downlinkEntry
      "downlink_table"
    simp [Device.fields, Record.ofJson, Device.ofJson, network, ethernet, ports, downlinks,
      -Option.map_map, -List.map_map]
  rest _ := rfl

theorem keepsMembers_site : KeepsMembers Site "Site" Site.fields [] Site.rest where
  shaped := rfl
  distinct := by decide
  flat := by simp [Site.fields]
  steady := by simp [Site.fields]
  written value := ⟨_, rfl, by simp [Site.fields, Record.ofJson, Site.ofJson]⟩
  rest _ := rfl

theorem keepsMembers_user : KeepsMembers User "User" User.fields [] User.rest where
  shaped := rfl
  distinct := by decide
  flat := by simp [User.fields]
  steady := by simp [User.fields]
  written value := ⟨_, rfl, by simp [User.fields, Record.ofJson, User.ofJson]⟩
  rest _ := rfl

/-- Alarms, events, devices, sites and users keep every member of the texts that they are read
from, a device its tables in the form that is modelled. -/
theorem Record.read_conserves (text : String) :
    (∀ alarm : Alarm, Record.read text = .ok alarm →
      Conserves Alarm.fields [] Alarm.rest text alarm) ∧
    (∀ event : Event, Record.read text = .ok event →
      Conserves Event.fields [] Event.rest text event) ∧
    (∀ device : Device, Record.read text = .ok device →
      Conserves Device.fields Device.tables Device.rest text device) ∧
    (∀ site : Site, Record.read text = .ok site →
      Conserves Site.fields [] Site.rest text site) ∧
    (∀ user : User, Record.read text = .ok user →
      Conserves User.fields [] User.rest text user) :=
  ⟨fun _ => keepsMembers_alarm.conserves, fun _ => keepsMembers_event.conserves,
    fun _ => keepsMembers_device.conserves, fun _ => keepsMembers_site.conserves,
    fun _ => keepsMembers_user.conserves⟩

theorem Record.read_conserves_sample :
    let text :=
      "\x7b\"name\":\"ap\",\"x\":1.5,\"_id\":\"5f\",\"x\":[\x7b\"b\":2,\"a\":1\x7d],\"state\":1\x7d"
    let other : List (String × Json) :=
      [("x", .array [.object [("a", ofInteger 1), ("b", ofInteger 2)]])]
    let named : List (String × Json) := ("name", .string "ap") :: ("state", ofInteger 1) :: other
    let alarm : Alarm := { (default : Alarm) with id := "5f", rest := named }
    let event : Event := { (default : Event) with id := "5f", rest := named }
    let device : Device :=
      { (default : Device) with id := "5f", name := some "ap", state := 1, rest := other }
    let site : Site := { (default : Site) with
      id := "5f", name := "ap", rest := ("state", ofInteger 1) :: other }
    let user : User := { (default : User) with
      id := "5f", name := some "ap", rest := ("state", ofInteger 1) :: other }
    (Record.read text = .ok alarm ∧ Conserves Alarm.fields [] Alarm.rest text alarm) ∧
      (Record.read text = .ok event ∧ Conserves Event.fields [] Event.rest text event) ∧
      (Record.read text = .ok device ∧
        Conserves Device.fields Device.tables Device.rest text device) ∧
      (Record.read text = .ok site ∧ Conserves Site.fields [] Site.rest text site) ∧
      Record.read text = .ok user ∧ Conserves User.fields [] User.rest text user := by
  intro text other named alarm event device site user
  obtain ⟨alarms, events, devices, sites, users⟩ := Record.read_conserves text
  have asAlarm : Record.read text = .ok alarm := by decide +kernel
  have asEvent : Record.read text = .ok event := by decide +kernel
  have asDevice : Record.read text = .ok device := by decide +kernel
  have asSite : Record.read text = .ok site := by decide +kernel
  have asUser : Record.read text = .ok user := by decide +kernel
  exact ⟨⟨asAlarm, alarms alarm asAlarm⟩, ⟨asEvent, events event asEvent⟩,
    ⟨asDevice, devices device asDevice⟩, ⟨asSite, sites site asSite⟩, asUser, users user asUser⟩

end NetConsole
