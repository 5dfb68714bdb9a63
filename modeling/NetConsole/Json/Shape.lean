import NetConsole.Decimal.Word
import NetConsole.Json.Tree

/-!
# Shapes of values

A shape says which values a reader takes: a type for scalars and lists, and for records the
fields in their order, with what an absent field stands for. One walk over the tree reads any
shape; it yields the value with the fields in their declared order, every absent field filled in.
-/

set_option autoImplicit false

namespace NetConsole.Json

/-- What the absence of a field means. -/
inductive Absence where
  /-- the record is refused -/
  | refused
  /-- the field is `null`; an array of fields must still hold it -/
  | null
  /-- the field has this value -/
  | filled (value : Json)
  deriving Repr, Inhabited

/-- What a field is when an object does not have its key. -/
def Absence.ofKey? : Absence → Option Json
  | .refused => none
  | .null => some .null
  | .filled value => some value

/-- What a field is when an array of fields ends before it. -/
def Absence.ofPosition? : Absence → Option Json
  | .filled value => some value
  | _ => none

mutual

/-- The type of a value. -/
inductive Shape where
  /-- any value -/
  | any
  | text
  | flag
  /-- an integer from `low` to `high`, under the name of that range -/
  | integer (low high : Int) (name : String)
  /-- the value `null`, or one of a shape -/
  | optional (shape : Shape)
  | list (shape : Shape)
  /-- one of some names -/
  | variant (names : List String)
  /-- an object whose keys are 64-bit words in quotes -/
  | numbered
  /-- an object whose members all have one shape -/
  | keyed (shape : Shape)
  /-- a record; its unknown members are kept after its fields, or else passed over -/
  | record (name : String) (fields : List Field) (keepsRest : Bool)

/-- A field of a record: its key, its shape, and what its absence means. -/
inductive Field where
  | mk (key : String) (shape : Shape) (absence : Absence)

end

def Field.key : Field → String
  | .mk key _ _ => key

def Field.shape : Field → Shape
  | .mk _ shape _ => shape

def Field.absence : Field → Absence
  | .mk _ _ absence => absence

instance : Inhabited Shape := ⟨.any⟩
instance : Inhabited Field := ⟨.mk "" .any .refused⟩

namespace Shape

/-- 64-bit signed integers. -/
def signed64 : Shape := .integer (-Decimal.half64) (Decimal.half64 - 1) "i64"
def signed32 : Shape := .integer (-Decimal.half32) (Decimal.half32 - 1) "i32"
def word64 : Shape := .integer 0 (Decimal.words64 - 1) "u64"
def word32 : Shape := .integer 0 (Decimal.words32 - 1) "u32"

/-- Whether `null` is allowed, and the shape that any other value must have. -/
def base : Shape → Bool × Shape
  | .optional shape => (true, shape.base.2)
  | shape => (false, shape)

/-- What a reader of a shape says that it wanted. -/
def expected : Shape → String
  | .any => "any value"
  | .text => "a string"
  | .flag => "a boolean"
  | .integer _ _ name => name
  | .optional shape => shape.expected
  | .list _ => "a sequence"
  | .variant _ => "variant identifier"
  | .numbered => "a map"
  | .keyed _ => "a map"
  | .record name _ _ => "struct " ++ name

end Shape

def fieldOf (fields : List Field) (key : String) : Option Field :=
  fields.find? (·.key == key)

/-- The fields in their declared order, from those that were met; the absent ones filled in. -/
def complete (met : List (String × Json)) : List Field → Except Reason (List (String × Json))
  | [] => .ok []
  | field :: rest => do
      let value ← match lookup field.key met with
        | some value => pure value
        | none =>
            match field.absence.ofKey? with
            | some value => pure value
            | none => throw (.missingField field.key)
      let rest ← complete met rest
      return (field.key, value) :: rest

/-- The name of a variant, if it is one of those allowed. -/
def checkVariant (names : List String) (name : String) : Except Reason Json :=
  if names.contains name then .ok (.string name) else .error (.unknownVariant name names)

/-- A number for an integer range. -/
def checkInteger (low high : Int) (name : String) : Number → Except Reason Json
  | .integer i =>
      if low ≤ i ∧ i ≤ high then .ok (.number (.integer i)) else .error (.invalidInteger i name)
  | .fraction x => .error (.invalidType (.number (.fraction x)) name)

/-- A key that is a 64-bit word in quotes. -/
def checkNumberedKey (key : Key) : Except Reason Nat := do
  let number ← key.numeral
  match number with
  | .integer i =>
      if i < 0 then throw (.invalidInteger i "u64")
      if !key.closed then throw .keyNotClosed
      return i.toNat
  | .fraction x => throw (.invalidType (.number (.fraction x)) "u64")

/-- An entry put at its place among entries with ascending numbers; one with the same number is
replaced. -/
def insertNumbered {α : Type} (key : Nat) (value : α) : List (Nat × α) → List (Nat × α)
  | [] => [(key, value)]
  | (k, v) :: rest =>
      if key < k then (key, value) :: (k, v) :: rest
      else if k < key then (k, v) :: insertNumbered key value rest
      else (key, value) :: rest

/-- The members of an object whose keys are words in quotes, read into ascending order. -/
def readNumbered (room : Nat) : List (Key × Tree) → List (Nat × Json) →
    Except Reason (List (Nat × Json))
  | [], entries => .ok entries
  | (key, tree) :: rest, entries => do
      let key ← checkNumberedKey key
      let value ← tree.value room
      readNumbered room rest (insertNumbered key value entries)

/-- The variant that an object with one member names; the member's value is `null`. -/
def readVariantObject (names : List String) (members : List (Key × Tree)) (close : Close) :
    Except Reason Json :=
  match members with
  | [] => .error (if close = .cut then .endOfValue else .valueDue)
  | (key, tree) :: rest => do
      let name ← key.text.read
      let result ← checkVariant names name
      match tree with
      | .null => pure ()
      | other => other.mismatch "unit"
      match rest with
      | [] => stopIf close.afterVariant
      | _ => throw .valueDue
      return result

/-- A value without members or items, read as a shape. -/
def readScalar (shape : Shape) (tree : Tree) : Except Reason Json :=
  match shape, tree with
  | .any, tree => tree.value 0
  | .text, .string scan => scan.read.map .string
  | .flag, .bool b => .ok (.bool b)
  | .integer low high name, .number scan => do checkInteger low high name (← scan.read)
  | .variant names, .string scan => do checkVariant names (← scan.read)
  | .variant _, .broken reason => .error reason
  | .variant _, _ => .error .valueDue
  | shape, tree => tree.mismatch shape.expected

mutual

/-- Reading a value of a shape. A record is read from an object, or from an array of its fields
in their order if it keeps no unknown members. -/
def readShape : Shape → Nat → Tree → Except Reason Json
  | shape, room, .array items close =>
      match shape.base.2 with
      | .any => Tree.value room (.array items close)
      | .list item => do
          let room ← enter room
          let items ← readItems item room items
          stopIf close.ofItems
          return .array items
      | .record name fields false => do
          let room ← enter room
          let members ← readPositions name fields.length room close fields items
          return .object members
      | .variant _ => .error .valueDue
      | other => .error (.invalidType .sequence other.expected)
  | shape, room, .object members close =>
      match shape.base.2 with
      | .any => Tree.value room (.object members close)
      | .record _ fields keepsRest => do
          let room ← enter room
          let (met, rest) ← readMembers fields keepsRest room [] members
          stopIf close.ofMembers
          let fields ← complete met fields
          return .object (fields ++ sortMembers rest)
      | .numbered => do
          let room ← enter room
          let entries ← readNumbered room members []
          stopIf close.ofMembers
          return .object (entries.map fun (key, value) => (toString key, value))
      | .keyed item => do
          let room ← enter room
          let entries ← readKeyed item room members
          stopIf close.ofMembers
          return .object (sortMembers entries)
      | .variant names => do
          let _ ← enter room
          readVariantObject names members close
      | other => .error (.invalidType .map other.expected)
  | shape, _, .null =>
      if shape.base.1 then .ok .null else readScalar shape.base.2 .null
  | shape, _, tree => readScalar shape.base.2 tree

/-- Reading items of one shape. -/
def readItems : Shape → Nat → List Tree → Except Reason (List Json)
  | _, _, [] => .ok []
  | shape, room, item :: rest => do
      let item ← readShape shape room item
      let rest ← readItems shape room rest
      return item :: rest

/-- Reading members whose values have one shape. -/
def readKeyed : Shape → Nat → List (Key × Tree) → Except Reason (List (String × Json))
  | _, _, [] => .ok []
  | shape, room, (key, tree) :: rest => do
      let name ← key.text.read
      let value ← readShape shape room tree
      let rest ← readKeyed shape room rest
      return (name, value) :: rest

/-- Reading the fields of a record from an array, one item for each. Fields beyond its end are
absent; items beyond the last field are refused. -/
def readPositions (name : String) (count : Nat) (room : Nat) (close : Close) :
    List Field → List Tree → Except Reason (List (String × Json))
  | [], [] => do stopIf close.afterItems; return []
  | [], _ :: _ => .error .trailingCharacters
  | fields, [] => do
      stopIf close.ofItems
      fillPositions name count (count - fields.length) fields
  | field :: fields, item :: items => do
      let value ← readShape field.shape room item
      let rest ← readPositions name count room close fields items
      return (field.key, value) :: rest
where
  /-- The absent fields from a position on; one that must be present makes the array too short. -/
  fillPositions (name : String) (count position : Nat) :
      List Field → Except Reason (List (String × Json))
    | [] => .ok []
    | field :: fields =>
        match field.absence.ofPosition? with
        | none => .error (.invalidLength position name count)
        | some value => do
            let rest ← fillPositions name count (position + 1) fields
            return (field.key, value) :: rest

/-- Reading the members of a record: the fields that are met, in the order of the text, and the
members with other keys if they are kept. -/
def readMembers (fields : List Field) (keepsRest : Bool) (room : Nat) :
    List (String × Json) → List (Key × Tree) →
      Except Reason (List (String × Json) × List (String × Json))
  | met, [] => .ok (met, [])
  | met, (key, tree) :: more => do
      let name ← key.text.read
      match fieldOf fields name with
      | some field =>
          if (lookup name met).isSome then throw (.duplicateField name)
          let value ← readShape field.shape room tree
          readMembers fields keepsRest room (met ++ [(name, value)]) more
      | none =>
          if keepsRest then
            let value ← tree.value room
            let (met, rest) ← readMembers fields keepsRest room met more
            return (met, (name, value) :: rest)
          else
            tree.skip
            readMembers fields keepsRest room met more

end

/-- The value of a text that has a shape. -/
def parseAs (shape : Shape) (text : String) : Except Reason Json :=
  (Document.ofChars text.toList).read (readShape shape maxDepth)

end NetConsole.Json
