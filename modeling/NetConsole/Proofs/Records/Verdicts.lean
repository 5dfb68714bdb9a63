import NetConsole.Proofs.Records.Statements
import NetConsole.Records.Envelope

/-!
# Envelopes and replies

The answer to a request for records and the answer to a command are read by shapes of their own,
which differ in what the verdict may be: an envelope takes `null` for the want of one, and a reply
does not. But for a verdict that is `null` either is read exactly if the other is, and then they
hold the same data and the same verdict.
-/

set_option autoImplicit false

namespace NetConsole

namespace Json

open Stepwise

/-! ## Documents -/

theorem Document.read_eq_ok_iff {document : Document} {reader : Tree → Except Reason Json}
    {value : Json} : document.read reader = .ok value ↔
      reader document.root = .ok value ∧ document.trailing = false := by
  rw [Document.read, bind_eq_ok]
  constructor
  · rintro ⟨result, read, rest⟩
    split at rest
    · cases rest
    · next ended =>
        cases rest
        exact ⟨read, by simpa using ended⟩
  · rintro ⟨read, ended⟩
    exact ⟨value, read, by rw [ended]; rfl⟩

theorem parseAs_eq_ok_iff {shape : Shape} {text : String} {value : Json} :
    parseAs shape text = .ok value ↔
      readShape shape maxDepth (Document.ofChars text.toList).root = .ok value ∧
        (Document.ofChars text.toList).trailing = false :=
  Document.read_eq_ok_iff

/-! ## Data and verdict -/

namespace Tree

/-- What an answer states for data: all that stands under the key, or the first item. -/
def dataParts : Tree → List Tree
  | .object members _ => statements "data" members
  | .array parts _ => parts.take 1
  | _ => []

/-- What an answer states for a verdict: all that stands under the key, or what is left after the
first item. -/
def verdictParts : Tree → List Tree
  | .object members _ => statements "meta" members
  | .array parts _ => parts.drop 1
  | _ => []

/-- The verdict of an answer is stated, as `null`. -/
def NullVerdict (tree : Tree) : Prop := tree.verdictParts = [.null]

end Tree

/-- The two fields of an answer, which are named and may be left out both by key and by position. -/
structure Answering (data verdict : Field) : Prop where
  dataKey : data.key = "data"
  verdictKey : verdict.key = "meta"
  dataAbsence : data.absence.ofPosition? = data.absence.ofKey?
  verdictAbsence : verdict.absence.ofPosition? = verdict.absence.ofKey?

/-- A tree is an object or an array to its end, and a reader of an answer gets past what it states
beside data and verdict. -/
def Tree.Encloses : Tree → Prop
  | .object members close =>
      Framed [.list "data" .any, .optional "meta" Verdict.shape] members close
  | .array _ close => close = .closed
  | _ => False

theorem Framed.congr {fields others : List Field} {trees : List (Key × Tree)} {close : Close}
    (same : fields.map Field.key = others.map Field.key) (framed : Framed fields trees close) :
    Framed others trees close := by
  refine ⟨fun member there => ?_, framed.closed⟩
  obtain ⟨name, named, passes⟩ := framed.passes member there
  refine ⟨name, named, fun unknown => passes ?_⟩
  rw [fieldOf_eq_none] at unknown ⊢
  rwa [same]

section

variable {field : Field} {fields : List Field} {room : Nat} {parts : List Tree}
  {members : List (String × Json)}

theorem placed_cons_iff (same : field.absence.ofPosition? = field.absence.ofKey?) :
    Placed room (field :: fields) parts members ↔ ∃ held rest,
      field.Stands room (parts.take 1) held ∧ Placed room fields (parts.drop 1) rest ∧
        members = (field.key, held) :: rest := by
  constructor
  · intro placed
    cases placed with
    | absent given others => exact ⟨_, _, .absent (same.symm.trans given), others, rfl⟩
    | stated read others => exact ⟨_, _, .stated read, others, rfl⟩
  · rintro ⟨held, rest, stands, others, rfl⟩
    match parts with
    | [] =>
        cases stands with
        | absent given => exact .absent (same.trans given) others
    | part :: parts =>
        cases stands with
        | stated read => exact .stated read others

theorem placed_last_iff (same : field.absence.ofPosition? = field.absence.ofKey?) :
    Placed room [field] parts members ↔ ∃ held,
      field.Stands room parts held ∧ members = [(field.key, held)] := by
  rw [placed_cons_iff same]
  match parts with
  | [] =>
      constructor
      · rintro ⟨held, rest, stands, ⟨⟩, rfl⟩
        exact ⟨held, stands, rfl⟩
      · rintro ⟨held, stands, rfl⟩
        exact ⟨held, [], stands, .nil, rfl⟩
  | [part] =>
      constructor
      · rintro ⟨held, rest, stands, ⟨⟩, rfl⟩
        exact ⟨held, stands, rfl⟩
      · rintro ⟨held, stands, rfl⟩
        exact ⟨held, [], stands, .nil, rfl⟩
  | _ :: _ :: _ =>
      constructor
      · rintro ⟨held, rest, -, ⟨⟩, -⟩
      · rintro ⟨held, ⟨⟩, -⟩

end

section

variable {name : String} {data verdict : Field} {room : Nat} {tree : Tree} {value : Json}

/-- An answer is read from an object and from an array alike: from what they state for its data and
for its verdict. -/
theorem readAnswer_iff (answering : Answering data verdict) :
    readShape (.record name [data, verdict] false) (room + 1) tree = .ok value ↔
      tree.Encloses ∧ ∃ one other, data.Stands room tree.dataParts one ∧
        verdict.Stands room tree.verdictParts other ∧
        value = .object [("data", one), ("meta", other)] := by
  have keys : [data, verdict].map Field.key = ["data", "meta"] := by
    simp [answering.dataKey, answering.verdictKey]
  cases tree with
  | object members close =>
      have distinct : ([data, verdict].map Field.key).Nodup := keys ▸ by decide
      rw [readShape_object_iff distinct, keys]
      simp only [List.forall_mem_cons, List.not_mem_nil, false_implies, implies_true, and_true,
        answering.dataKey, answering.verdictKey]
      refine and_congr ⟨Framed.congr keys, Framed.congr keys.symm⟩ ?_
      constructor
      · rintro ⟨held, rfl, one, other⟩
        exact ⟨_, _, one, other, rfl⟩
      · rintro ⟨one, other, first, second, rfl⟩
        exact ⟨fun key => if key = "data" then one else other, rfl, first, second⟩
  | array parts close =>
      -- the data are the first item if there is one, and all that is left is for the verdict
      rw [readShape_array_iff]
      refine and_congr Iff.rfl ?_
      simp only [placed_cons_iff answering.dataAbsence, placed_last_iff answering.verdictAbsence,
        answering.dataKey, answering.verdictKey]
      constructor
      · rintro ⟨_, rfl, one, _, first, ⟨other, second, rfl⟩, rfl⟩
        exact ⟨one, other, first, second, rfl⟩
      · rintro ⟨one, other, first, second, rfl⟩
        exact ⟨_, rfl, one, _, first, ⟨other, second, rfl⟩, rfl⟩
  | null | bool | number | string | broken =>
      refine ⟨fun read => ?_, fun encloses => encloses.1.elim⟩
      exact absurd read (Tree.mismatch_ne_ok _ _ _)

end

/-! ## The same answer -/

/-- The verdict of an envelope, and that of a reply with it. -/
inductive SameVerdict : Json → Json → Prop where
  | absent : SameVerdict .null (Record.toJson Verdict.absent)
  | stated (members : List (String × Json)) : SameVerdict (.object members) (.object members)

/-- An envelope and a reply hold the same data and the same verdict. -/
inductive SameAnswer : Json → Json → Prop where
  | mk (data : Json) {one other : Json} : SameVerdict one other →
      SameAnswer (.object [("data", data), ("meta", one)]) (.object [("data", data), ("meta", other)])

theorem SameAnswer.data_eq {envelope reply : Json} (same : SameAnswer envelope reply) :
    (CommandReply.ofJson reply).data = (Envelope.ofJson envelope : Envelope Json).data := by
  cases same with
  | mk data verdict => exact (List.map_id _).symm

theorem SameAnswer.verdict_eq {envelope reply : Json} (same : SameAnswer envelope reply) :
    (CommandReply.ofJson reply).verdict =
      (Envelope.ofJson envelope : Envelope Json).verdict.getD Verdict.absent := by
  cases same with
  | mk data verdict =>
      cases verdict with
      | absent => rfl
      | stated members => rfl

section

variable {room : Nat} {parts : List Tree} {tree : Tree} {value : Json}

/-- The field of the verdict in an envelope, and that in a reply. -/
def verdictField? : Field := .optional "meta" Verdict.shape

def verdictField : Field := .mk "meta" Verdict.shape (.filled (Record.toJson Verdict.absent))

theorem nodup_verdict : (Verdict.fields.map Field.key).Nodup := (by decide : ["rc", "msg"].Nodup)

theorem object_of_verdict {part : Tree} (read : readShape Verdict.shape room part = .ok value) :
    ∃ members, value = .object members := by
  obtain ⟨_, members, rest, -, rfl, -⟩ := readShape_record nodup_verdict read
  exact ⟨_, rfl⟩

theorem verdict_of_verdict? (stands : verdictField?.Stands room parts value)
    (given : parts ≠ [.null]) :
    ∃ other, verdictField.Stands room parts other ∧ SameVerdict value other := by
  cases stands with
  | absent filled =>
      cases filled
      exact ⟨_, .absent rfl, .absent⟩
  | @stated part _ read =>
      have present : part ≠ .null := fun absent => given (by rw [absent])
      change readShape (.optional Verdict.shape) room part = _ at read
      rw [readShape_optional present] at read
      obtain ⟨members, rfl⟩ := object_of_verdict read
      exact ⟨_, .stated read, .stated members⟩

theorem verdict?_of_verdict (stands : verdictField.Stands room parts value) :
    parts ≠ [.null] ∧ ∃ one, verdictField?.Stands room parts one ∧ SameVerdict one value := by
  cases stands with
  | absent filled =>
      cases filled
      exact ⟨List.cons_ne_nil _ _ |>.symm, _, .absent rfl, .absent⟩
  | @stated part _ read =>
      change readShape Verdict.shape room part = _ at read
      have present : part ≠ .null := by
        rintro rfl
        exact absurd read (Tree.mismatch_ne_ok _ _ _)
      refine ⟨fun absent => present (List.cons.inj absent).1, value, .stated ?_, ?_⟩
      · change readShape (.optional Verdict.shape) room part = _
        rw [readShape_optional present, read]
      · obtain ⟨members, rfl⟩ := object_of_verdict read
        exact .stated members

theorem readEnvelope_iff : readShape (Envelope.shape .any) (room + 1) tree = .ok value ↔
    tree.Encloses ∧ ∃ one other, (Field.list "data" .any).Stands room tree.dataParts one ∧
      verdictField?.Stands room tree.verdictParts other ∧
      value = .object [("data", one), ("meta", other)] :=
  readAnswer_iff ⟨rfl, rfl, rfl, rfl⟩

theorem readReply_iff : readShape CommandReply.shape (room + 1) tree = .ok value ↔
    tree.Encloses ∧ ∃ one other, (Field.list "data" .any).Stands room tree.dataParts one ∧
      verdictField.Stands room tree.verdictParts other ∧
      value = .object [("data", one), ("meta", other)] :=
  readAnswer_iff ⟨rfl, rfl, rfl, rfl⟩

/-- An envelope is read as a reply, unless its verdict is `null`. -/
theorem reply_of_envelope (read : readShape (Envelope.shape .any) (room + 1) tree = .ok value)
    (given : ¬ tree.NullVerdict) :
    ∃ reply, readShape CommandReply.shape (room + 1) tree = .ok reply ∧ SameAnswer value reply := by
  obtain ⟨encloses, data, verdict, first, second, rfl⟩ := readEnvelope_iff.mp read
  obtain ⟨other, again, same⟩ := verdict_of_verdict? second given
  exact ⟨_, readReply_iff.mpr ⟨encloses, data, other, first, again, rfl⟩, .mk data same⟩

theorem envelope_of_reply (read : readShape CommandReply.shape (room + 1) tree = .ok value) :
    ¬ tree.NullVerdict ∧
      ∃ envelope, readShape (Envelope.shape .any) (room + 1) tree = .ok envelope ∧
        SameAnswer envelope value := by
  obtain ⟨encloses, data, verdict, first, second, rfl⟩ := readReply_iff.mp read
  obtain ⟨given, one, again, same⟩ := verdict?_of_verdict second
  exact ⟨given, _, readEnvelope_iff.mpr ⟨encloses, data, one, first, again, rfl⟩, .mk data same⟩

end

end Json

end NetConsole
