import NetConsole.Decimal.Binary64

/-!
# JSON values

A value keeps the members of its objects in order, because records are written in the order of
their fields. `Json.sorted` is the form of a free value: keys ascending by code point, the last
of several members with one key kept.
-/

set_option autoImplicit false

namespace NetConsole

/-- A number is an integer, or else a double; `1` and `1.0` are different numbers. -/
inductive Number where
  | integer (value : Int)
  | fraction (value : Decimal.Binary64)
  deriving DecidableEq, Repr, Inhabited

/-- A JSON value with the members of each object in order. -/
inductive Json where
  | null
  | bool (value : Bool)
  | number (value : Number)
  | string (value : String)
  | array (items : List Json)
  | object (members : List (String × Json))
  deriving Repr, Inhabited

namespace Json

mutual

/-- Whether two values are the same, objects with their members in the same order. -/
def same : Json → Json → Bool
  | .null, .null => true
  | .bool a, .bool b => a == b
  | .number a, .number b => a == b
  | .string a, .string b => a == b
  | .array as, .array bs => sameItems as bs
  | .object as, .object bs => sameMembers as bs
  | _, _ => false

/-- `same` on every position of two lists. -/
def sameItems : List Json → List Json → Bool
  | [], [] => true
  | a :: as, b :: bs => same a b && sameItems as bs
  | _, _ => false

/-- The same keys with the same values at every position. -/
def sameMembers : List (String × Json) → List (String × Json) → Bool
  | [], [] => true
  | (j, a) :: as, (k, b) :: bs => j == k && same a b && sameMembers as bs
  | _, _ => false

end

mutual

/-- Two values are the same exactly when they are equal. -/
theorem same_iff (a b : Json) : same a b = true ↔ a = b := by
  cases a with
  | array as => cases b <;> simp [same, sameItems_iff as]
  | object as => cases b <;> simp [same, sameMembers_iff as]
  | null => cases b <;> simp [same]
  | bool x => cases b <;> simp [same]
  | number x => cases b <;> simp [same]
  | string x => cases b <;> simp [same]

theorem sameItems_iff (as bs : List Json) : sameItems as bs = true ↔ as = bs := by
  cases as with
  | nil => cases bs <;> simp [sameItems]
  | cons a as => cases bs <;> simp [sameItems, same_iff a, sameItems_iff as]

theorem sameMembers_iff (as bs : List (String × Json)) :
    sameMembers as bs = true ↔ as = bs := by
  cases as with
  | nil => cases bs <;> simp [sameMembers]
  | cons a as =>
      obtain ⟨j, a⟩ := a
      cases bs with
      | nil => simp [sameMembers]
      | cons b bs =>
          obtain ⟨k, b⟩ := b
          simp [sameMembers, same_iff a, sameMembers_iff as]

end

instance : DecidableEq Json := fun a b => decidable_of_iff _ (same_iff a b)

/-- The value of the last member with a key. -/
def lookup (key : String) : List (String × Json) → Option Json
  | [] => none
  | (k, v) :: rest => (lookup key rest).or (if k = key then some v else none)

/-- The member of an object; nothing for a value that is no object or has no such key. -/
def get? (key : String) : Json → Option Json
  | .object members => lookup key members
  | _ => none

def text? : Json → Option String
  | .string s => some s
  | _ => none

/-- A member put at its place among members with ascending keys; a member with the same key is
replaced. -/
def insertMember (key : String) (value : Json) : List (String × Json) → List (String × Json)
  | [] => [(key, value)]
  | (k, v) :: rest =>
      if key < k then (key, value) :: (k, v) :: rest
      else if k < key then (k, v) :: insertMember key value rest
      else (key, value) :: rest

/-- Members with ascending keys; of several members with one key the last is kept. -/
def sortMembers (members : List (String × Json)) : List (String × Json) :=
  members.foldl (fun sorted (key, value) => insertMember key value sorted) []

mutual

/-- The value with the members of every object sorted. -/
def sorted : Json → Json
  | .array items => .array (sortedItems items)
  | .object members => .object (sortMembers (sortedMembers members))
  | other => other

/-- `sorted` on every item. -/
def sortedItems : List Json → List Json
  | [] => []
  | item :: rest => sorted item :: sortedItems rest

/-- `sorted` on the value of every member. -/
def sortedMembers : List (String × Json) → List (String × Json)
  | [] => []
  | (key, value) :: rest => (key, sorted value) :: sortedMembers rest

end

end Json

end NetConsole
