import NetConsole.Proofs.Json.Skipping
import NetConsole.Proofs.Records.Rereading

/-!
# When a record is read

A record that passes over what it does not know is read from an object exactly if each of its fields
is stated at most once, what is stated has the shape of the field, and what is not may be absent.
One statement that does not fit fails the whole record.
-/

set_option autoImplicit false

namespace NetConsole.Json

open Stepwise

/-- What the members of an object state under a key, one after another. -/
def statements (key : String) (members : List (Key × Tree)) : List Tree :=
  (members.filter fun member => member.1.text.read.toOption = some key).map (·.2)

theorem statements_cons {key own : String} {name : Key} {tree : Tree} {rest : List (Key × Tree)}
    (named : name.text.read = .ok own) : statements key ((name, tree) :: rest) =
      if own = key then tree :: statements key rest else statements key rest := by
  by_cases same : own = key
  · simp [statements, named, Except.toOption, same]
  · simp [statements, named, Except.toOption, same]

/-- A reader of fields gets past all members: it can read their keys, and pass over what stands
under the key of no field. The object is closed. -/
structure Framed (fields : List Field) (members : List (Key × Tree)) (close : Close) : Prop where
  passes : ∀ member ∈ members, ∃ name, member.1.text.read = .ok name ∧
    (fieldOf fields name = none → member.2.skip = .ok ())
  closed : close = .closed

/-- What a field has from what is stated under its key. -/
inductive Field.Stands (room : Nat) (field : Field) : List Tree → Json → Prop where
  | absent {held : Json} : field.absence.ofKey? = some held → Stands room field [] held
  | stated {part : Tree} {held : Json} : readShape field.shape room part = .ok held →
      Stands room field [part] held

theorem Field.Stands.unique {room : Nat} {field : Field} {parts : List Tree} {one two : Json}
    (first : field.Stands room parts one) (second : field.Stands room parts two) : one = two := by
  cases first with
  | absent given =>
      cases second with
      | absent again => exact Option.some.inj (given.symm.trans again)
  | stated given =>
      cases second with
      | stated again => exact Except.ok.inj (given.symm.trans again)

section

variable {fields : List Field} {room : Nat} {met : List (String × Json)}
  {trees : List (Key × Tree)}

theorem readMembers_passes {result rest : List (String × Json)}
    (read : readMembers fields false room met trees = .ok (result, rest)) :
    ∀ member ∈ trees, ∃ name, member.1.text.read = .ok name ∧
      (fieldOf fields name = none → member.2.skip = .ok ()) := by
  induction trees generalizing met with
  | nil => exact fun _ member => absurd member List.not_mem_nil
  | cons tree trees ih =>
      obtain ⟨key, tree⟩ := tree
      rw [readMembers] at read
      obtain ⟨name, named, read⟩ := bind_eq_ok.mp read
      cases known : fieldOf fields name with
      | some field =>
          rw [known] at read
          dsimp only at read
          split at read
          case isTrue => cases read
          case isFalse =>
            obtain ⟨value, -, later⟩ := bind_eq_ok.mp read
            refine List.forall_mem_cons.mpr ⟨⟨name, named, fun unknown => ?_⟩, ih later⟩
            rw [known] at unknown
            cases unknown
      | none =>
          rw [known] at read
          obtain ⟨⟨⟩, passed, later⟩ := bind_eq_ok.mp read
          exact List.forall_mem_cons.mpr ⟨⟨name, named, fun _ => passed⟩, ih later⟩

/-- A field is met once if it is stated, and is not met otherwise. -/
theorem readMembers_statements {result rest : List (String × Json)} {key : String} {field : Field}
    (known : fieldOf fields key = some field)
    (read : readMembers fields false room met trees = .ok (result, rest)) :
    statements key trees = [] ∧ lookup key result = lookup key met ∨
      lookup key met = none ∧ ∃ part held, statements key trees = [part] ∧
        readShape field.shape room part = .ok held ∧ lookup key result = some held := by
  induction trees generalizing met rest with
  | nil =>
      rw [readMembers] at read
      cases read
      exact .inl ⟨rfl, rfl⟩
  | cons tree trees ih =>
      obtain ⟨name, tree⟩ := tree
      obtain ⟨own, named, ⟨other, value, ownKnown, unmet, first, later⟩ |
        ⟨ownUnknown, more, later⟩⟩ := readMembers_step read
      · rw [statements_cons named]
        have after := ih later
        rw [lookup_append, lookup, lookup, Option.none_or] at after
        by_cases same : own = key
        · subst same
          rw [known] at ownKnown
          cases ownKnown
          rw [if_pos rfl, Option.some_or] at after
          rw [if_pos rfl]
          rcases after with ⟨unstated, found⟩ | ⟨again, -⟩
          · exact .inr ⟨unmet, tree, value, by rw [unstated], first, found⟩
          · cases again
        · rw [if_neg same, Option.none_or] at after
          rw [if_neg same]
          exact after
      · have other : own ≠ key := by
          rintro rfl
          rw [known] at ownUnknown
          cases ownUnknown
        rw [statements_cons named, if_neg other]
        exact ih later

/-- Members are read if a reader gets past them all and finds each field in one place at most. -/
theorem exists_readMembers
    (passes : ∀ member ∈ trees, ∃ name, member.1.text.read = .ok name ∧
      (fieldOf fields name = none → member.2.skip = .ok ()))
    (each : ∀ key field, fieldOf fields key = some field →
      statements key trees = [] ∨ lookup key met = none ∧ ∃ part held,
        statements key trees = [part] ∧ readShape field.shape room part = .ok held) :
    ∃ result, readMembers fields false room met trees = .ok (result, []) := by
  induction trees generalizing met with
  | nil => exact ⟨met, by rw [readMembers]⟩
  | cons tree trees ih =>
      obtain ⟨key, tree⟩ := tree
      obtain ⟨⟨name, named, passed⟩, passes⟩ := List.forall_mem_cons.mp passes
      dsimp only at named passed
      cases known : fieldOf fields name with
      | some field =>
          have own := each name field known
          rw [statements_cons named, if_pos rfl] at own
          -- the field is stated here, so the members after this one do not state it again
          obtain ⟨unmet, part, held, only, read⟩ := own.resolve_left (List.cons_ne_nil _ _)
          obtain ⟨rfl, last⟩ := List.cons.inj only
          obtain ⟨result, later⟩ := @ih (met ++ [(name, held)]) passes fun other field found => by
            have given := each other field found
            rw [statements_cons named] at given
            by_cases same : name = other
            · subst same
              exact .inl last
            · rw [if_neg same] at given
              rwa [lookup_append, lookup, lookup, if_neg same]
          exact ⟨result, (readMembers_cons named known unmet read).trans later⟩
      | none =>
          obtain ⟨result, later⟩ := @ih met passes fun other field found => by
            have given := each other field found
            have apart : name ≠ other := by
              rintro rfl
              rw [known] at found
              cases found
            rwa [statements_cons named, if_neg apart] at given
          refine ⟨result, ?_⟩
          rw [readMembers, named]
          simp only [bind, Except.bind, known, passed known]
          exact later

variable {name : String} {close : Close} {value : Json}

/-- A record is read from an object exactly if a reader gets past all members and each field has
something from what is stated under its key. -/
theorem readShape_object_iff (distinct : (fields.map Field.key).Nodup) :
    readShape (.record name fields false) (room + 1) (.object trees close) = .ok value ↔
      Framed fields trees close ∧ ∃ held : String → Json,
        value = .object (heldAt held (fields.map Field.key)) ∧
        ∀ field ∈ fields, field.Stands room (statements field.key trees) (held field.key) := by
  rw [readShape]
  simp only [Shape.base, enter]
  constructor
  · intro read
    obtain ⟨_, ⟨⟩, read⟩ := bind_eq_ok.mp read
    obtain ⟨⟨met, rest⟩, each, read⟩ := bind_eq_ok.mp read
    obtain ⟨⟨⟩, ended, read⟩ := bind_eq_ok.mp read
    obtain ⟨members, completed, read⟩ := bind_eq_ok.mp read
    obtain rfl : rest = [] := readMembers_rest each
    cases read
    have named := complete_named completed
    refine ⟨⟨readMembers_passes each, Close.ofMembers_eq_none.mp (stopIf_eq_ok.mp ended)⟩,
      valueAt members, ?_, fun field member => ?_⟩
    · -- nothing is kept beyond the fields, so the members are those of the fields in their order
      have own := @heldAt_valueAt members members (named ▸ distinct) fun _ => id
      rw [← named, own, sortMembers, List.foldl_nil, List.append_nil]
    · obtain ⟨held, found, origin⟩ := lookup_complete distinct completed member
      rw [valueAt, found, Option.getD_some]
      rcases readMembers_statements (fieldOf_eq_some distinct member) each with
        ⟨unstated, unmet⟩ | ⟨-, part, own, only, reads, isMet⟩
      · rw [unstated]
        rw [unmet] at origin
        rcases origin with ⟨⟨⟩⟩ | ⟨-, absent⟩
        exact .absent absent
      · rw [only]
        rw [isMet] at origin
        rcases origin with same | ⟨⟨⟩, -⟩
        rw [← Option.some.inj same]
        exact .stated reads
  · rintro ⟨⟨passes, rfl⟩, held, rfl, stands⟩
    obtain ⟨met, each⟩ := @exists_readMembers fields room [] trees passes fun key field known => by
      obtain ⟨member, rfl⟩ := mem_of_fieldOf known
      have stand := stands field member
      generalize statements field.key trees = parts at stand ⊢
      cases stand with
      | absent => exact .inl rfl
      | stated reads => exact .inr ⟨rfl, _, _, rfl, reads⟩
    have completed : complete met fields = .ok (heldAt held (fields.map Field.key)) := by
      refine complete_heldAt fun field member => ?_
      have stand := stands field member
      rcases readMembers_statements (fieldOf_eq_some distinct member) each with
        ⟨unstated, unmet⟩ | ⟨-, part, own, only, reads, isMet⟩
      · rw [unstated] at stand
        cases stand with
        | absent given => exact .inr ⟨unmet, given⟩
      · rw [only] at stand
        rw [isMet, stand.unique (.stated reads)]
        exact .inl rfl
    simp only [bind, Except.bind, each, completed, Close.ofMembers, stopIf, pure, Except.pure,
      sortMembers, List.foldl_nil, List.append_nil]

end

/-! ## Records from arrays -/

/-- Fields that are read from the items of an array one by one, those beyond its end filled in. -/
inductive Placed (room : Nat) : List Field → List Tree → List (String × Json) → Prop where
  | nil : Placed room [] [] []
  | absent {field : Field} {fields : List Field} {held : Json} {members : List (String × Json)} :
      field.absence.ofPosition? = some held → Placed room fields [] members →
      Placed room (field :: fields) [] ((field.key, held) :: members)
  | stated {field : Field} {fields : List Field} {part : Tree} {parts : List Tree} {held : Json}
      {members : List (String × Json)} : readShape field.shape room part = .ok held →
      Placed room fields parts members →
      Placed room (field :: fields) (part :: parts) ((field.key, held) :: members)

section

variable {name : String} {count room : Nat} {fields : List Field} {parts : List Tree}
  {members : List (String × Json)} {close : Close}

theorem fillPositions_iff {position : Nat} :
    readPositions.fillPositions name count position fields = .ok members ↔
      Placed room fields [] members := by
  induction fields generalizing position members with
  | nil =>
      rw [readPositions.fillPositions]
      constructor
      · rintro ⟨⟩
        exact .nil
      · rintro ⟨⟩
        rfl
  | cons field fields ih =>
      rw [readPositions.fillPositions]
      cases absent : field.absence.ofPosition? with
      | none =>
          constructor
          · rintro ⟨⟩
          · intro placed
            cases placed with
            | absent given =>
                rw [absent] at given
                cases given
      | some held =>
          dsimp only
          rw [bind_eq_ok]
          constructor
          · rintro ⟨rest, others, ⟨⟩⟩
            exact .absent absent (ih.mp others)
          · intro placed
            cases placed with
            | absent given others =>
                rw [absent] at given
                cases given
                exact ⟨_, ih.mpr others, rfl⟩

theorem afterItems_eq_none : close.afterItems = none ↔ close = .closed := by
  cases close <;> simp [Close.afterItems]

theorem readPositions_iff : readPositions name count room close fields parts = .ok members ↔
    close = .closed ∧ Placed room fields parts members := by
  induction fields generalizing parts members with
  | nil =>
      cases parts with
      | nil =>
          rw [readPositions, bind_eq_ok]
          constructor
          · rintro ⟨⟨⟩, ended, ⟨⟩⟩
            exact ⟨afterItems_eq_none.mp (stopIf_eq_ok.mp ended), .nil⟩
          · rintro ⟨closed, ⟨⟩⟩
            exact ⟨⟨⟩, stopIf_eq_ok.mpr (afterItems_eq_none.mpr closed), rfl⟩
      | cons part parts =>
          rw [readPositions]
          constructor
          · rintro ⟨⟩
          · rintro ⟨-, ⟨⟩⟩
  | cons field fields ih =>
      cases parts with
      | nil =>
          rw [readPositions, bind_eq_ok]
          · constructor
            · rintro ⟨⟨⟩, ended, filled⟩
              exact ⟨Close.ofItems_eq_none.mp (stopIf_eq_ok.mp ended), fillPositions_iff.mp filled⟩
            · rintro ⟨closed, placed⟩
              exact ⟨⟨⟩, stopIf_eq_ok.mpr (Close.ofItems_eq_none.mpr closed),
                fillPositions_iff.mpr placed⟩
          · simp
      | cons part parts =>
          rw [readPositions, bind_eq_ok]
          constructor
          · rintro ⟨held, read, rest⟩
            obtain ⟨others, later, ⟨⟩⟩ := bind_eq_ok.mp rest
            obtain ⟨closed, placed⟩ := ih.mp later
            exact ⟨closed, .stated read placed⟩
          · rintro ⟨closed, placed⟩
            cases placed with
            | stated read others =>
                exact ⟨_, read, bind_eq_ok.mpr ⟨_, ih.mpr ⟨closed, others⟩, rfl⟩⟩

/-- A record is read from an array exactly if the array is closed and its items are the first of
the fields. -/
theorem readShape_array_iff {value : Json} :
    readShape (.record name fields false) (room + 1) (.array parts close) = .ok value ↔
      close = .closed ∧ ∃ members, value = .object members ∧ Placed room fields parts members := by
  rw [readShape]
  simp only [Shape.base, enter]
  constructor
  · intro read
    obtain ⟨_, ⟨⟩, read⟩ := bind_eq_ok.mp read
    obtain ⟨members, each, ⟨⟩⟩ := bind_eq_ok.mp read
    obtain ⟨closed, placed⟩ := readPositions_iff.mp each
    exact ⟨closed, members, rfl, placed⟩
  · rintro ⟨closed, members, rfl, placed⟩
    simp only [bind, Except.bind, readPositions_iff.mpr ⟨closed, placed⟩]
    rfl

end

/-! ## Objects that are read as free values -/

/-- A reader of fields gets past the members of an object that can be read as a free value. -/
theorem framed_of_value {fields : List Field} {room : Nat} {trees : List (Key × Tree)}
    {close : Close} {value : Json} (sound : (Tree.object trees close).Sound)
    (read : Tree.value room (.object trees close) = .ok value) : Framed fields trees close := by
  cases sound with
  | object _ each =>
      rw [Tree.value] at read
      obtain ⟨inner, -, read⟩ := bind_eq_ok.mp read
      obtain ⟨members, values, read⟩ := bind_eq_ok.mp read
      obtain ⟨⟨⟩, ended, -⟩ := bind_eq_ok.mp read
      refine ⟨fun member there => ?_, Close.ofMembers_eq_none.mp (stopIf_eq_ok.mp ended)⟩
      obtain ⟨name, held, named, own⟩ := Tree.exists_of_memberValues values member there
      exact ⟨name, named, fun _ => Tree.skip_of_value (each member there) own⟩

/-- Of several members with one key a free value has the last. -/
theorem lookup_memberValues {room : Nat} {trees : List (Key × Tree)}
    {members : List (String × Json)} (read : Tree.memberValues room trees = .ok members)
    (key : String) : statements key trees = [] ∧ lookup key members = none ∨
      ∃ part held, (statements key trees).getLast? = some part ∧ part.value room = .ok held ∧
        lookup key members = some held := by
  induction trees generalizing members with
  | nil =>
      cases read
      exact .inl ⟨rfl, rfl⟩
  | cons tree trees ih =>
      obtain ⟨name, tree⟩ := tree
      rw [Tree.memberValues] at read
      obtain ⟨own, named, read⟩ := bind_eq_ok.mp read
      obtain ⟨value, first, read⟩ := bind_eq_ok.mp read
      obtain ⟨rest, others, ⟨⟩⟩ := bind_eq_ok.mp read
      rw [statements_cons named, lookup]
      rcases ih others with ⟨unstated, missing⟩ | ⟨part, held, last, reads, found⟩
      · rw [unstated, missing, Option.none_or]
        by_cases same : own = key
        · rw [if_pos same, if_pos same]
          exact .inr ⟨tree, value, rfl, first, rfl⟩
        · rw [if_neg same, if_neg same]
          exact .inl ⟨rfl, rfl⟩
      · right
        refine ⟨part, held, ?_, reads, by rw [found, Option.some_or]⟩
        split
        · rw [List.getLast?_cons, last]
          rfl
        · exact last

end NetConsole.Json
