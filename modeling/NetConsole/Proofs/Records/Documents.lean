import NetConsole.Proofs.Json.Scalars
import NetConsole.Proofs.Store.CollectionFile
import NetConsole.Records.Alarm
import NetConsole.Records.DeviceSummary
import NetConsole.Records.Event
import NetConsole.Records.Site
import NetConsole.Records.User

/-!
# The documents of records

A record that was read from an answer whose numbers are integers is kept as a document that a file
can hold: its own fields have nothing inside them, and whatever else the controller told about it
is nested as deep in a file as it was in the answer. The document has the id of the record.
-/

set_option autoImplicit false

namespace NetConsole

open Json Store Stepwise

/-! ## Flat values -/

namespace Json

/-- A value with nothing inside it; a number is an integer that fits a word. -/
structure IsFlat (value : Json) : Prop where
  shallow : value.depth = 0
  integral : IsIntegral value

@[simp] theorem isFlat_null : IsFlat .null := ⟨rfl, trivial⟩

@[simp] theorem isFlat_string (s : String) : IsFlat (.string s) := ⟨rfl, trivial⟩

@[simp] theorem isFlat_bool (b : Bool) : IsFlat (.bool b) := ⟨rfl, trivial⟩

theorem isFlat_integer {i : Int} (fits : IsWord i) : IsFlat (.number (.integer i)) := ⟨rfl, fits⟩

@[simp] theorem isFlat_ofText? (s : Option String) : IsFlat (ofText? s) := by
  cases s with
  | none => exact isFlat_null
  | some s => exact isFlat_string s

@[simp] theorem isFlat_ofFlag? (b : Option Bool) : IsFlat (ofFlag? b) := by
  cases b with
  | none => exact isFlat_null
  | some b => exact isFlat_bool b

theorem isFlat_integerAt? {value : Json} (integral : IsIntegral value) (key : String) :
    IsFlat (ofInteger? (integerAt? key value)) := by
  unfold integerAt?
  cases value with
  | object members =>
      rw [get?]
      cases found : lookup key members with
      | none => exact isFlat_null
      | some held =>
          have inside := everyMember_iff.mp integral.2 (key, held) (mem_of_lookup found)
          cases held with
          | number n =>
              cases n with
              | integer i => exact isFlat_integer inside
              | fraction x => exact isFlat_null
          | null | bool | string | array | object => exact isFlat_null
  | null | bool | number | string | array => exact isFlat_null

theorem isFlat_of_readsScalar {shape : Shape} (scalar : shape.Scalar) {tree : Tree} {value : Json}
    (reads : ReadsScalar shape tree value) : IsFlat value := by
  induction scalar with
  | text =>
      cases reads
      exact isFlat_string _
  | flag =>
      cases reads
      exact isFlat_bool _
  | integer _ lowFits highFits =>
      cases reads with
      | integer _ _ low high =>
          exact isFlat_integer ⟨lowFits.1.trans low, lt_of_le_of_lt high highFits.2⟩
  | optional _ ih =>
      cases reads with
      | null => exact isFlat_null
      | optional _ reads => exact ih reads

theorem isFlat_of_readShape {shape : Shape} (scalar : shape.Scalar) {room : Nat} {tree : Tree}
    {value : Json} (read : readShape shape room tree = .ok value) : IsFlat value :=
  isFlat_of_readsScalar scalar (scalar.reads read)

/-! ## Fields and rests -/

/-- A field with a scalar shape, for whose absence a flat value stands. -/
structure Field.IsFlat (field : Field) : Prop where
  shape : field.shape.Scalar
  absence : ∀ value, field.absence.ofKey? = some value → Json.IsFlat value

@[simp] theorem Field.isFlat_text (key : String) : (Field.text key).IsFlat :=
  ⟨.text, fun _ same => by cases same⟩

@[simp] theorem Field.isFlat_textOrEmpty (key : String) : (Field.textOrEmpty key).IsFlat where
  shape := .text
  absence := by
    intro _ same
    cases same
    exact isFlat_string ""

@[simp] theorem Field.isFlat_flag (key : String) : (Field.flag key).IsFlat where
  shape := .flag
  absence := by
    intro _ same
    cases same
    exact isFlat_bool false

@[simp] theorem Field.isFlat_optional (key : String) {shape : Shape} (scalar : shape.Scalar) :
    (Field.optional key shape).IsFlat where
  shape := .optional scalar
  absence := by
    intro _ same
    cases same
    exact isFlat_null

@[simp] theorem Field.isFlat_text? (key : String) : (Field.text? key).IsFlat :=
  isFlat_optional key .text

@[simp] theorem Field.isFlat_flag? (key : String) : (Field.flag? key).IsFlat :=
  isFlat_optional key .flag

theorem Field.Fills.isFlat {room : Nat} {tree : Tree} {field : Field} {member : String × Json}
    (fills : field.Fills room tree member) (flat : field.IsFlat) : Json.IsFlat member.2 := by
  rcases fills.origin with ⟨part, -, read⟩ | absent
  · exact isFlat_of_readShape flat.shape read
  · exact flat.absence _ absent

theorem exists_of_mem_forall₂ {α β : Type} {relates : α → β → Prop} {first : List α}
    {second : List β} (related : List.Forall₂ relates first second) {two : β}
    (member : two ∈ second) : ∃ one ∈ first, relates one two := by
  induction related with
  | nil => cases member
  | cons here _ ih =>
      rcases List.mem_cons.mp member with rfl | later
      · exact ⟨_, List.mem_cons_self, here⟩
      · obtain ⟨one, there, relates⟩ := ih later
        exact ⟨one, List.mem_cons_of_mem _ there, relates⟩

/-- What is read of a record whose own fields are all scalars: flat values for these, and further
members under other keys. -/
theorem readShape_flat {name : String} {fields : List Field} (distinct : (fields.map Field.key).Nodup)
    (flat : ∀ field ∈ fields, field.IsFlat) {tree : Tree} (integral : tree.IsIntegral) {room : Nat}
    {value : Json} (read : readShape (.record name fields true) (room + 1) tree = .ok value) :
    ∃ members rest, value = .object (members ++ rest) ∧ members.length = fields.length ∧
      (∀ member ∈ members, Json.IsFlat member.2) ∧
      ∀ member ∈ rest, fieldOf fields member.1 = none ∧ IsIntegral member.2 ∧
        member.2.depth ≤ room := by
  obtain ⟨inner, members, rest, deep, rfl, fills, kept, -⟩ := readShape_record distinct read
  obtain rfl : room = inner := Nat.succ.inj deep
  refine ⟨members, sortMembers rest, rfl, fills.length_eq.symm, fun member found => ?_,
    fun member found => ?_⟩
  · obtain ⟨field, there, filled⟩ := exists_of_mem_forall₂ fills found
    exact filled.isFlat (flat field there)
  · obtain ⟨unknown, part, there, origin⟩ := kept member (mem_of_mem_sortMembers found)
    exact ⟨unknown, Tree.value_integral (integral.parts part there) origin,
      (Tree.value_sorted origin).2⟩

end Json

/-! ## Records -/

/-- A document that a file can hold, with a text for its id. -/
structure Keepable (id : String) (document : Json) : Prop where
  storable : Storable document
  identified : document.get? "_id" = some (.string id)

theorem keepable_sorted {scalars rest : List (String × Json)} {id : String}
    (flat : ∀ member ∈ scalars, Json.IsFlat member.2)
    (others : ∀ member ∈ rest, IsIntegral member.2 ∧ member.2.depth < documentRoom)
    (unnamed : ∀ member ∈ rest, member.1 ≠ "_id")
    (identified : Json.lookup "_id" scalars = some (.string id)) :
    Keepable id (Json.object (scalars ++ rest)).sorted := by
  constructor
  case storable =>
    refine storable_sorted ⟨trivial, everyMember_iff.mpr fun member found => ?_⟩
      (Nat.succ_le_of_lt (Nat.lt_of_le_of_lt
        (membersDepth_le.mpr (fun member found => ?_) : _ ≤ documentRoom - 1) (by decide)))
    · rcases List.mem_append.mp found with own | other
      · exact (flat member own).integral
      · exact (others member other).1
    · rcases List.mem_append.mp found with own | other
      · rw [(flat member own).shallow]
        exact Nat.zero_le _
      · exact Nat.le_sub_one_of_lt (others member other).2
  case identified =>
    rw [get?_sorted, get?, lookup_append, lookup_eq_none unnamed, Option.none_or, identified]
    rfl

/-- A record is kept as a document that a file can hold, with the id of the record. -/
def KeepsAs {α : Type} [Record α] (id : α → String) (record : α) : Prop :=
  Keepable (id record) (documentOf record)

/-- A type of records whose own fields are scalars, written in front of all other members. -/
structure FlatRecord (α : Type) [Record α] (id : α → String) (name : String)
    (fields : List Field) : Prop where
  shaped : Record.shape α = .record name fields true
  distinct : (fields.map Field.key).Nodup
  flat : ∀ field ∈ fields, field.IsFlat
  known : (fieldOf fields "_id").isSome = true
  written : ∀ value, IsIntegral value → ∃ scalars,
    Record.toJson (Record.ofJson value : α) = .object (scalars ++ restAfter fields.length value) ∧
      (∀ member ∈ scalars, Json.IsFlat member.2) ∧
      Json.lookup "_id" scalars = some (.string (id (Record.ofJson value)))

/-- A record that was read where there was room for the depth of a document is kept as one. -/
theorem FlatRecord.keepsAs {α : Type} [Record α] {id : α → String} {name : String}
    {fields : List Field} (record : FlatRecord α id name fields) {tree : Tree}
    (integral : tree.IsIntegral) {value : Json}
    (read : readShape (Record.shape α) documentRoom tree = .ok value) :
    KeepsAs id (Record.ofJson value : α) := by
  rw [record.shaped] at read
  have deep : readShape (.record name fields true) (documentRoom - 1 + 1) tree = .ok value := read
  obtain ⟨members, rest, rfl, length, flat, others⟩ :=
    readShape_flat record.distinct record.flat integral deep
  have whole : IsIntegral (.object (members ++ rest)) := by
    refine ⟨trivial, everyMember_iff.mpr fun member found => ?_⟩
    rcases List.mem_append.mp found with own | other
    · exact (flat member own).integral
    · exact (others member other).2.1
  obtain ⟨scalars, written, scalarsFlat, identified⟩ := record.written _ whole
  have left : restAfter fields.length (.object (members ++ rest)) = rest := by
    rw [restAfter, ← length]
    exact List.drop_left
  rw [left] at written
  rw [KeepsAs, documentOf, written]
  refine keepable_sorted scalarsFlat (fun member found => ?_) (fun member found same => ?_) identified
  · obtain ⟨-, integral, shallow⟩ := others member found
    exact ⟨integral, Nat.lt_of_le_of_lt shallow (by decide)⟩
  · obtain ⟨unknown, -⟩ := others member found
    have known := record.known
    rw [← same, unknown] at known
    cases known

/-! ## The records that are kept -/

theorem flatRecord_alarm : FlatRecord Alarm (·.id) "Alarm" Alarm.fields where
  shaped := rfl
  distinct := by decide
  flat := by simp [Alarm.fields]
  known := rfl
  written value integral := by
    refine ⟨_, rfl, ?_, rfl⟩
    have time : IsFlat (ofInteger? (Alarm.ofJson value).time) := isFlat_integerAt? integral "time"
    have occurs : IsFlat (ofInteger? (Alarm.ofJson value).occurs) :=
      isFlat_integerAt? integral "occurs"
    simp [Record.ofJson, time, occurs]

theorem flatRecord_event : FlatRecord Event (·.id) "Event" Event.fields where
  shaped := rfl
  distinct := by decide
  flat := by simp [Event.fields]
  known := rfl
  written value integral := by
    refine ⟨_, rfl, ?_, rfl⟩
    have time : IsFlat (ofInteger? (Event.ofJson value).time) := isFlat_integerAt? integral "time"
    have duration : IsFlat (ofInteger? (Event.ofJson value).duration) :=
      isFlat_integerAt? integral "duration"
    have bytes : IsFlat (ofInteger? (Event.ofJson value).bytes) :=
      isFlat_integerAt? integral "bytes"
    simp [Record.ofJson, time, duration, bytes]

theorem flatRecord_site : FlatRecord Site (·.id) "Site" Site.fields where
  shaped := rfl
  distinct := by decide
  flat := by simp [Site.fields]
  known := rfl
  written value _ := ⟨_, rfl, by simp, rfl⟩

theorem flatRecord_user : FlatRecord User (·.id) "User" User.fields where
  shaped := rfl
  distinct := by decide
  flat := by simp [User.fields]
  known := rfl
  written value integral := by
    refine ⟨_, rfl, ?_, rfl⟩
    have first : IsFlat (ofInteger? (User.ofJson value).firstSeen) :=
      isFlat_integerAt? integral "first_seen"
    have last : IsFlat (ofInteger? (User.ofJson value).lastSeen) :=
      isFlat_integerAt? integral "last_seen"
    simp [Record.ofJson, first, last]

theorem keepsAs_deviceSummary (summary : DeviceSummary) :
    KeepsAs (fun device : DeviceSummary => device.id) summary := by
  have whole : Record.toJson summary = .object (summary.members ++ []) :=
    congrArg Json.object (List.append_nil summary.members).symm
  rw [KeepsAs, documentOf, whole]
  refine keepable_sorted ?_ (fun _ member => absurd member List.not_mem_nil)
    (fun _ member => absurd member List.not_mem_nil) rfl
  simp [DeviceSummary.members]

end NetConsole
