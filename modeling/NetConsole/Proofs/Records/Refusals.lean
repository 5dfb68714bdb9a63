import NetConsole.Client.Basic
import NetConsole.Proofs.Records.Verdicts

/-!
# Which refusals are read

The body of a refusal is read by one shape for all that it says. So what it says is taken only if
every part of it has the form that is expected: message and id are texts or `null`, and the verdict
is an object or an array in which the code is a text and the message a text or `null`, each stated
once at most.
-/

set_option autoImplicit false

namespace NetConsole

namespace Json

open Stepwise

/-! ## Fields that may be absent -/

/-- There is one at most, and it is of a kind. -/
def Once (kind : Tree → Prop) : List Tree → Prop
  | [] => True
  | [part] => kind part
  | _ => False

instance {kind : Tree → Prop} [DecidablePred kind] (parts : List Tree) :
    Decidable (Once kind parts) :=
  match parts with
  | [] => .isTrue trivial
  | [part] => inferInstanceAs (Decidable (kind part))
  | _ :: _ :: _ => .isFalse id

theorem Once.congr {one other : Tree → Prop} {parts : List Tree}
    (same : ∀ part ∈ parts, one part ↔ other part) : Once one parts ↔ Once other parts := by
  match parts with
  | [] => exact Iff.rfl
  | [part] => exact same part List.mem_cons_self
  | _ :: _ :: _ => exact Iff.rfl

theorem Field.exists_stands_iff {field : Field} {room : Nat} {parts : List Tree} {default : Json}
    (optional : field.absence.ofKey? = some default) : (∃ held, field.Stands room parts held) ↔
      Once (fun part => ∃ held, readShape field.shape room part = .ok held) parts := by
  match parts with
  | [] => exact ⟨fun _ => trivial, fun _ => ⟨default, .absent optional⟩⟩
  | [part] =>
      constructor
      · rintro ⟨held, stands⟩
        cases stands with
        | stated read => exact ⟨held, read⟩
      · rintro ⟨held, read⟩
        exact ⟨held, .stated read⟩
  | _ :: _ :: _ =>
      constructor
      · rintro ⟨held, stands⟩
        cases stands
      · exact False.elim

/-- Whether a record is read from an object is up to its fields one by one. -/
theorem exists_readShape_object_iff {name : String} {fields : List Field} {room : Nat}
    {trees : List (Key × Tree)} {close : Close} (distinct : (fields.map Field.key).Nodup)
    (framed : Framed fields trees close) :
    (∃ value, readShape (.record name fields false) (room + 1) (.object trees close) = .ok value) ↔
      ∀ field ∈ fields, ∃ held, field.Stands room (statements field.key trees) held := by
  constructor
  · rintro ⟨value, read⟩ field member
    obtain ⟨-, held, -, stands⟩ := (readShape_object_iff distinct).mp read
    exact ⟨held field.key, stands field member⟩
  · intro each
    -- no two fields have one key, so a value for each field is one for its key
    have byKey : ∀ key, ∃ held, ∀ field, fieldOf fields key = some field →
        field.Stands room (statements key trees) held := by
      intro key
      cases known : fieldOf fields key with
      | none => exact ⟨.null, nofun⟩
      | some field =>
          obtain ⟨member, rfl⟩ := mem_of_fieldOf known
          obtain ⟨held, stands⟩ := each field member
          exact ⟨held, fun other same => Option.some.inj same ▸ stands⟩
    choose held stands using byKey
    exact ⟨_, (readShape_object_iff distinct).mpr ⟨framed, held, rfl, fun field member =>
      stands field.key field (fieldOf_eq_some distinct member)⟩⟩

/-! ## Texts -/

namespace Tree

def IsText : Tree → Prop
  | .string _ => True
  | _ => False

def MayBeText : Tree → Prop
  | .null | .string _ => True
  | _ => False

instance : DecidablePred IsText
  | .string _ => .isTrue trivial
  | .null | .bool _ | .number _ | .array _ _ | .object _ _ | .broken _ => .isFalse id

instance : DecidablePred MayBeText
  | .null | .string _ => .isTrue trivial
  | .bool _ | .number _ | .array _ _ | .object _ _ | .broken _ => .isFalse id

variable {part : Tree} {room : Nat} {value : Json}

theorem exists_text_iff (legible : part.value room = .ok value) :
    (∃ held, readShape .text room part = .ok held) ↔ part.IsText := by
  constructor
  · rintro ⟨held, read⟩
    cases Shape.Scalar.text.reads read
    trivial
  · intro isText
    cases part with
    | string scan =>
        obtain ⟨s, scanned, -⟩ := map_eq_ok legible
        exact ⟨_, (ReadsScalar.text scanned).readShape room⟩
    | null | bool | number | array | object | broken => exact isText.elim

theorem exists_text?_iff (legible : part.value room = .ok value) :
    (∃ held, readShape (.optional .text) room part = .ok held) ↔ part.MayBeText := by
  by_cases absent : part = .null
  · subst absent
    exact ⟨fun _ => trivial, fun _ => ⟨.null, rfl⟩⟩
  · rw [readShape_optional absent, exists_text_iff legible]
    cases part <;> simp_all [IsText, MayBeText]

end Tree

/-! ## Verdicts -/

/-- A tree is a verdict: an object that states code and message once at most, or an array with one
after the other. -/
def Tree.IsVerdict : Tree → Prop
  | .object members _ =>
      Once IsText (statements "rc" members) ∧ Once MayBeText (statements "msg" members)
  | .array [] _ => True
  | .array [code] _ => code.IsText
  | .array [code, message] _ => code.IsText ∧ message.MayBeText
  | _ => False

instance : DecidablePred Tree.IsVerdict
  | .object _ _ => inferInstanceAs (Decidable (_ ∧ _))
  | .array [] _ => .isTrue trivial
  | .array [code] _ => inferInstanceAs (Decidable code.IsText)
  | .array [_, _] _ => inferInstanceAs (Decidable (_ ∧ _))
  | .array (_ :: _ :: _ :: _) _ => .isFalse id
  | .null | .bool _ | .number _ | .string _ | .broken _ => .isFalse id

def Tree.MayBeVerdict : Tree → Prop
  | .null => True
  | part => part.IsVerdict

instance : DecidablePred Tree.MayBeVerdict
  | .null => .isTrue trivial
  | .bool b => inferInstanceAs (Decidable (Tree.bool b).IsVerdict)
  | .number scan => inferInstanceAs (Decidable (Tree.number scan).IsVerdict)
  | .string scan => inferInstanceAs (Decidable (Tree.string scan).IsVerdict)
  | .array items close => inferInstanceAs (Decidable (Tree.array items close).IsVerdict)
  | .object members close => inferInstanceAs (Decidable (Tree.object members close).IsVerdict)
  | .broken reason => inferInstanceAs (Decidable (Tree.broken reason).IsVerdict)

theorem Tree.mayBeVerdict_iff {part : Tree} (given : part ≠ .null) :
    part.MayBeVerdict ↔ part.IsVerdict := by
  cases part with
  | null => exact absurd rfl given
  | bool | number | string | array | object | broken => exact Iff.rfl

theorem mem_of_statements {key : String} {trees : List (Key × Tree)} {part : Tree}
    (stated : part ∈ statements key trees) : ∃ name, (name, part) ∈ trees := by
  obtain ⟨member, found, rfl⟩ := List.mem_map.mp stated
  exact ⟨member.1, (List.mem_filter.mp found).1⟩

section

variable {trees : List (Key × Tree)} {room : Nat} {members : List (String × Json)} {key : String}

theorem legible_of_statements (values : Tree.memberValues room trees = .ok members) :
    ∀ part ∈ statements key trees, ∃ value, part.value room = .ok value := by
  intro part stated
  obtain ⟨name, there⟩ := mem_of_statements stated
  obtain ⟨own, value, -, read⟩ := Tree.exists_of_memberValues values _ there
  exact ⟨value, read⟩

theorem once_text_iff (values : Tree.memberValues room trees = .ok members) :
    (∃ held, (Field.textOrEmpty key).Stands room (statements key trees) held) ↔
      Once Tree.IsText (statements key trees) := by
  rw [@Field.exists_stands_iff _ _ _ (.string "") rfl]
  refine Once.congr fun part stated => ?_
  obtain ⟨value, legible⟩ := legible_of_statements values part stated
  exact Tree.exists_text_iff legible

theorem once_text?_iff (values : Tree.memberValues room trees = .ok members) :
    (∃ held, (Field.text? key).Stands room (statements key trees) held) ↔
      Once Tree.MayBeText (statements key trees) := by
  rw [@Field.exists_stands_iff _ _ _ .null rfl]
  refine Once.congr fun part stated => ?_
  obtain ⟨value, legible⟩ := legible_of_statements values part stated
  exact Tree.exists_text?_iff legible

end

/-- A verdict from an array has its code and its message in the first two places. -/
theorem exists_placed_verdict_iff {room : Nat} {parts : List Tree} {items : List Json}
    (values : Tree.values room parts = .ok items) :
    (∃ members, Placed room Verdict.fields parts members) ↔ (Tree.array parts .closed).IsVerdict := by
  have legible := Tree.exists_of_values values
  match parts with
  | [] => exact ⟨fun _ => trivial, fun _ => ⟨_, .absent rfl (.absent rfl .nil)⟩⟩
  | [code] =>
      obtain ⟨_, first⟩ := legible code List.mem_cons_self
      rw [Tree.IsVerdict, ← Tree.exists_text_iff first]
      constructor
      · rintro ⟨members, placed⟩
        cases placed with
        | stated read _ => exact ⟨_, read⟩
      · rintro ⟨held, read⟩
        exact ⟨_, .stated read (.absent rfl .nil)⟩
  | [code, message] =>
      obtain ⟨_, first⟩ := legible code List.mem_cons_self
      obtain ⟨_, second⟩ := legible message (List.mem_cons_of_mem _ List.mem_cons_self)
      rw [Tree.IsVerdict, ← Tree.exists_text_iff first, ← Tree.exists_text?_iff second]
      constructor
      · rintro ⟨members, placed⟩
        cases placed with
        | stated read rest =>
            cases rest with
            | stated again _ => exact ⟨⟨_, read⟩, _, again⟩
      · rintro ⟨⟨held, read⟩, more, again⟩
        exact ⟨_, .stated read (.stated again .nil)⟩
  | _ :: _ :: _ :: _ =>
      constructor
      · rintro ⟨members, placed⟩
        cases placed with
        | stated _ rest =>
            cases rest with
            | stated _ rest => cases rest
      · exact False.elim

/-- A verdict is read from a tree that can be read at all exactly if the tree is one. -/
theorem exists_verdict_iff {part : Tree} (sound : part.Sound) {room : Nat} {value : Json}
    (legible : part.value room = .ok value) :
    (∃ held, readShape Verdict.shape room part = .ok held) ↔ part.IsVerdict := by
  cases part with
  | object trees close =>
      obtain ⟨inner, members, rfl, values, -⟩ := Tree.value_object legible
      rw [Verdict.shape, exists_readShape_object_iff nodup_verdict (framed_of_value sound legible),
        Verdict.fields]
      simp only [List.forall_mem_cons, List.not_mem_nil, false_implies, implies_true, and_true]
      exact and_congr (once_text_iff values) (once_text?_iff values)
  | array parts close =>
      rw [Tree.value] at legible
      obtain ⟨inner, entered, legible⟩ := bind_eq_ok.mp legible
      obtain ⟨items, values, legible⟩ := bind_eq_ok.mp legible
      obtain ⟨⟨⟩, ended, -⟩ := bind_eq_ok.mp legible
      obtain rfl : room = inner + 1 := Tree.enter_eq_ok.mp entered
      obtain rfl := Close.ofItems_eq_none.mp (stopIf_eq_ok.mp ended)
      rw [Verdict.shape, ← exists_placed_verdict_iff values]
      simp only [readShape_array_iff, true_and]
      constructor
      · rintro ⟨_, members, -, placed⟩
        exact ⟨members, placed⟩
      · rintro ⟨members, placed⟩
        exact ⟨_, members, rfl, placed⟩
  | null | bool | number | string | broken =>
      refine ⟨fun read => ?_, False.elim⟩
      obtain ⟨held, read⟩ := read
      exact absurd read (Tree.mismatch_ne_ok _ _ _)

/-! ## What is read of a refusal -/

section

variable {trees : List (Key × Tree)} {room : Nat} {members : List (String × Json)} {key : String}

/-- A text that is read from an object is the text that a free value has. -/
theorem textAt?_of_stands {held : String → Json} {names : List String} (known : key ∈ names)
    (values : Tree.memberValues room trees = .ok members)
    (stands : (Field.text? key).Stands room (statements key trees) (held key)) :
    textAt? key (.object (heldAt held names)) = textAt? key (.object (sortMembers members)) := by
  rw [textAt?, textAt?, get?_heldAt known, get?, lookup_sortMembers]
  rcases lookup_memberValues values key with ⟨unstated, missing⟩ | ⟨part, own, last, read, there⟩
  · rw [unstated] at stands
    cases stands with
    | absent given =>
        have nothing : held key = .null := (Option.some.inj given).symm
        rw [nothing, missing]
  · generalize statements key trees = parts at stands last
    cases stands with
    | absent given => cases last
    | @stated only _ given =>
        obtain rfl : only = part := Option.some.inj last
        have reads := Shape.Scalar.text.optional.reads given
        rw [reads.value] at read
        rw [there, ← Except.ok.inj read]

end

/-- The message that a verdict has as a free value: under its key, or in the second place. -/
def messageOf : Json → Option String
  | .array (_ :: .string message :: _) => some message
  | verdict => textAt? "msg" verdict

theorem textAt?_placed {room : Nat} {parts : List Tree} {items : List Json}
    {members : List (String × Json)} (values : Tree.values room parts = .ok items)
    (placed : Placed room Verdict.fields parts members) :
    textAt? "msg" (.object members) = messageOf (.array items) := by
  cases placed with
  | absent given rest =>
      cases given
      cases rest with
      | absent given rest =>
          cases given
          cases rest
          cases values
          rfl
  | stated read rest =>
      rw [Tree.values] at values
      obtain ⟨code, -, values⟩ := bind_eq_ok.mp values
      obtain ⟨others, later, ⟨⟩⟩ := bind_eq_ok.mp values
      cases rest with
      | absent given rest =>
          cases given
          cases rest
          cases later
          rfl
      | stated again rest =>
          cases rest
          rw [Tree.values] at later
          obtain ⟨message, own, later⟩ := bind_eq_ok.mp later
          obtain ⟨_, ⟨⟩, ⟨⟩⟩ := bind_eq_ok.mp later
          have reads := Shape.Scalar.text.optional.reads again
          rw [reads.value] at own
          cases own
          cases reads with
          | null => rfl
          | optional _ text =>
              cases text
              rfl

theorem textAt?_verdict {part : Tree} {room : Nat} {held value : Json}
    (read : readShape Verdict.shape room part = .ok held) (legible : part.value room = .ok value) :
    textAt? "msg" held = messageOf value := by
  cases part with
  | object trees close =>
      obtain ⟨inner, members, rfl, values, rfl⟩ := Tree.value_object legible
      obtain ⟨-, own, rfl, stands⟩ := (readShape_object_iff nodup_verdict).mp read
      exact textAt?_of_stands (by decide) values
        (stands (.text? "msg") (List.mem_cons_of_mem _ List.mem_cons_self))
  | array parts close =>
      obtain ⟨inner, items, rfl, values, rfl⟩ := Tree.value_array legible
      obtain ⟨rfl, members, rfl, placed⟩ := readShape_array_iff.mp read
      exact textAt?_placed values placed
  | null | bool | number | string | broken => exact absurd read (Tree.mismatch_ne_ok _ _ _)

/-- A tree says what a refusal says: message, id and verdict, each once at most and each in its
form. -/
def Tree.IsRefusal : Tree → Prop
  | .object members _ =>
      Once MayBeText (statements "message" members) ∧
      Once MayBeText (statements "request_id" members) ∧
      Once MayBeVerdict (statements "meta" members)
  | _ => False

instance : DecidablePred Tree.IsRefusal
  | .object _ _ => inferInstanceAs (Decidable (_ ∧ _ ∧ _))
  | .null | .bool _ | .number _ | .string _ | .array _ _ | .broken _ => .isFalse id

section

variable {trees : List (Key × Tree)} {close : Close} {room : Nat} {members : List (String × Json)}
  {held : Json}

theorem once_verdict_iff (sound : (Tree.object trees close).Sound)
    (values : Tree.memberValues room trees = .ok members) :
    (∃ held, (Field.optional "meta" Verdict.shape).Stands room (statements "meta" trees) held) ↔
      Once Tree.MayBeVerdict (statements "meta" trees) := by
  rw [@Field.exists_stands_iff _ _ _ .null rfl]
  refine Once.congr fun part stated => ?_
  obtain ⟨value, legible⟩ := legible_of_statements values part stated
  obtain ⟨name, there⟩ := mem_of_statements stated
  by_cases absent : part = .null
  · subst absent
    exact ⟨fun _ => trivial, fun _ => ⟨.null, rfl⟩⟩
  · cases sound with
    | object _ each =>
        change (∃ held, readShape (.optional Verdict.shape) room part = .ok held) ↔ _
        rw [readShape_optional absent, exists_verdict_iff (each _ there) legible,
          Tree.mayBeVerdict_iff absent]

theorem nodup_refusal : ([Field.text? "message", .text? "request_id",
    .optional "meta" Verdict.shape].map Field.key).Nodup :=
  (by decide : ["message", "request_id", "meta"].Nodup)

/-- A refusal is read from an object that can be read at all exactly if the object is one. -/
theorem exists_refusal_iff (sound : (Tree.object trees close).Sound) {value : Json}
    (legible : Tree.value (room + 1) (.object trees close) = .ok value) :
    (∃ held, readShape Client.refusalShape (room + 1) (.object trees close) = .ok held) ↔
      (Tree.object trees close).IsRefusal := by
  obtain ⟨inner, members, ⟨⟩, values, -⟩ := Tree.value_object legible
  rw [Client.refusalShape, exists_readShape_object_iff nodup_refusal (framed_of_value sound legible)]
  simp only [List.forall_mem_cons, List.not_mem_nil, false_implies, implies_true, and_true]
  exact and_congr (once_text?_iff values)
    (and_congr (once_text?_iff values) (once_verdict_iff sound values))

/-- The message of the verdict in a refusal is that of the verdict that a free value has. -/
theorem message_of_stands {names : List String} {own : String → Json} (known : "meta" ∈ names)
    (values : Tree.memberValues room trees = .ok members)
    (stands : (Field.optional "meta" Verdict.shape).Stands room (statements "meta" trees)
      (own "meta")) :
    ((recordAt? "meta" (.object (heldAt own names))).bind fun verdict =>
        (Verdict.ofJson verdict).message) =
      ((Json.object (sortMembers members)).get? "meta").bind messageOf := by
  rw [recordAt?, get?_heldAt known, get?, lookup_sortMembers]
  rcases lookup_memberValues values "meta" with ⟨unstated, missing⟩ |
    ⟨part, value, last, legible, there⟩
  · rw [unstated] at stands
    cases stands with
    | absent given =>
        have nothing : own "meta" = .null := (Option.some.inj given).symm
        rw [nothing, missing]
        rfl
  · rw [there]
    generalize statements "meta" trees = parts at stands last
    cases stands with
    | absent given => cases last
    | @stated only _ given =>
        obtain rfl : only = part := Option.some.inj last
        by_cases absent : only = .null
        · subst absent
          have nothing : own "meta" = .null := (Except.ok.inj given).symm
          cases legible
          rw [nothing]
          rfl
        · change readShape (.optional Verdict.shape) room only = _ at given
          rw [readShape_optional absent] at given
          have same := textAt?_verdict given legible
          obtain ⟨verdict, object⟩ := object_of_verdict given
          rw [object] at same ⊢
          exact same

end

/-- What is read of a refusal is what a free value has. -/
theorem told_of_read {trees : List (Key × Tree)} {close : Close} {room : Nat} {held value : Json}
    (read : readShape Client.refusalShape room (.object trees close) = .ok held)
    (legible : Tree.value room (.object trees close) = .ok value) :
    textAt? "message" held = textAt? "message" value ∧
    textAt? "request_id" held = textAt? "request_id" value ∧
    ((recordAt? "meta" held).bind fun verdict => (Verdict.ofJson verdict).message) =
      (value.get? "meta").bind messageOf := by
  obtain ⟨inner, members, rfl, values, rfl⟩ := Tree.value_object legible
  obtain ⟨-, own, rfl, stands⟩ := (readShape_object_iff nodup_refusal).mp read
  refine ⟨textAt?_of_stands ?_ values (stands (.text? "message") (by simp)),
    textAt?_of_stands ?_ values (stands (.text? "request_id") (by simp)),
    message_of_stands ?_ values (stands (.optional "meta" Verdict.shape) (by simp))⟩
  all_goals simp [Field.text?, Field.optional, Field.key]

end Json

namespace Client

open Json Stepwise

/-- What is told of a refusal whose body cannot be read. -/
def untold (status : Nat) : String × String := ("status " ++ toString status, "")

/-- What is told of a refusal by its body: the message, or else that of the verdict, unless it is
empty; and the id. -/
def told (status : Nat) (body : Json) : String × String :=
  ((((textAt? "message" body).or ((body.get? "meta").bind messageOf)).filter (· ≠ "")).getD
    (untold status).1, (textAt? "request_id" body).getD "")

def toldBy (status : Nat) (read : Json) : String × String :=
  ((((textAt? "message" read).or ((recordAt? "meta" read).bind fun verdict =>
      (Verdict.ofJson verdict).message)).filter (· ≠ "")).getD (untold status).1,
    (textAt? "request_id" read).getD "")

theorem refusalDetails_of_read {status : Nat} {body : String} {held : Json}
    (read : parseAs refusalShape body = .ok held) :
    refusalDetails status body = toldBy status held := by
  rw [refusalDetails, read]
  rfl

theorem refusalDetails_of_unread {status : Nat} {body : String}
    (unread : ∀ held, parseAs refusalShape body ≠ .ok held) :
    refusalDetails status body = untold status := by
  cases read : parseAs refusalShape body with
  | error reason =>
      rw [refusalDetails, read]
      rfl
  | ok held => exact absurd read (unread held)

/-- The body of a refusal is an object that can be read at all: it is told if it is a refusal, and
otherwise nothing of it is. -/
theorem refusalDetails_of_parse {status : Nat} {body : String} {members : List (String × Json)}
    (object : parse body = .ok (.object members)) :
    ((Document.ofChars body.toList).root.IsRefusal →
      refusalDetails status body = told status (.object members)) ∧
    (¬ (Document.ofChars body.toList).root.IsRefusal →
      refusalDetails status body = untold status) := by
  have sound := sound_ofChars body.toList
  obtain ⟨legible, ended⟩ := Document.read_eq_ok_iff.mp object
  cases root : (Document.ofChars body.toList).root with
  | object trees close =>
      rw [root] at sound legible
      rw [← exists_refusal_iff sound legible]
      constructor
      · rintro ⟨held, read⟩
        obtain ⟨message, id, verdict⟩ := told_of_read read legible
        have whole : parseAs refusalShape body = .ok held :=
          parseAs_eq_ok_iff.mpr ⟨by rw [root]; exact read, ended⟩
        rw [refusalDetails_of_read whole, toldBy, message, id, verdict]
        rfl
      · intro unread
        refine refusalDetails_of_unread fun held read => unread ⟨held, ?_⟩
        rw [← root]
        exact (parseAs_eq_ok_iff.mp read).1
  | array parts close =>
      rw [root] at legible
      obtain ⟨_, _, -, -, impossible⟩ := Tree.value_array legible
      cases impossible
  | number scan | string scan =>
      rw [root] at legible
      obtain ⟨_, -, impossible⟩ := map_eq_ok legible
      cases impossible
  | null | bool | broken =>
      rw [root] at legible
      cases legible

end Client

end NetConsole
