import NetConsole.Json.Shape

/-!
# Records

A record type is a shape together with the way between the values of that shape and the type.
-/

set_option autoImplicit false

namespace NetConsole

open Json

namespace Json

/-- The string in a field; empty if there is none. -/
def textAt (key : String) (value : Json) : String :=
  match value.get? key with
  | some (.string s) => s
  | _ => ""

/-- The string in a field, if there is one. -/
def textAt? (key : String) (value : Json) : Option String :=
  match value.get? key with
  | some (.string s) => some s
  | _ => none

/-- The boolean in a field; false if there is none. -/
def flagAt (key : String) (value : Json) : Bool :=
  match value.get? key with
  | some (.bool b) => b
  | _ => false

/-- The boolean in a field, if there is one. -/
def flagAt? (key : String) (value : Json) : Option Bool :=
  match value.get? key with
  | some (.bool b) => some b
  | _ => none

/-- The integer in a field, if there is one. -/
def integerAt? (key : String) (value : Json) : Option Int :=
  match value.get? key with
  | some (.number (.integer i)) => some i
  | _ => none

/-- The integer in a field; zero if there is none. -/
def integerAt (key : String) (value : Json) : Int := (integerAt? key value).getD 0

/-- The items of the array in a field; none if there is no array. -/
def itemsAt (key : String) (value : Json) : List Json :=
  match value.get? key with
  | some (.array items) => items
  | _ => []

/-- The value of a field that is not `null`. -/
def recordAt? (key : String) (value : Json) : Option Json :=
  match value.get? key with
  | none | some .null => none
  | some other => some other

/-- The members of an object other than the first few. -/
def restAfter (count : Nat) : Json → List (String × Json)
  | .object members => members.drop count
  | _ => []

def ofText? : Option String → Json
  | none => .null
  | some s => .string s

def ofFlag? : Option Bool → Json
  | none => .null
  | some b => .bool b

def ofInteger? : Option Int → Json
  | none => .null
  | some i => .number (.integer i)

def ofInteger (i : Int) : Json := .number (.integer i)

namespace Field

/-- A string that must be present. -/
def text (key : String) : Field := .mk key .text .refused
/-- A string that is empty when absent. -/
def textOrEmpty (key : String) : Field := .mk key .text (.filled (.string ""))
/-- A string or `null`, which is also what its absence means. -/
def text? (key : String) : Field := .mk key (.optional .text) (.filled .null)
/-- A boolean that is false when absent. -/
def flag (key : String) : Field := .mk key .flag (.filled (.bool false))
/-- A boolean or `null`, which is also what its absence means. -/
def flag? (key : String) : Field := .mk key (.optional .flag) (.filled .null)
/-- A value of a shape, or `null`, which is also what its absence means. -/
def optional (key : String) (shape : Shape) : Field := .mk key (.optional shape) (.filled .null)
/-- A list that is empty when absent. -/
def list (key : String) (item : Shape) : Field := .mk key (.list item) (.filled (.array []))

end Field

end Json

/-- A type whose values are written as JSON values of one shape. -/
class Record (α : Type) where
  shape : Shape
  ofJson : Json → α
  toJson : α → Json

namespace Record

/-- Any value is a record of itself. -/
instance : Record Json where
  shape := .any
  ofJson value := value
  toJson value := value

/-- The record that a text holds. -/
def read {α : Type} [Record α] (text : String) : Except Reason α :=
  (parseAs (shape α) text).map ofJson

/-- The compact text of a record. -/
def write {α : Type} [Record α] (record : α) : String := (toJson record).compact

end Record

end NetConsole
