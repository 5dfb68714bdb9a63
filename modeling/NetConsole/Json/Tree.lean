import NetConsole.Json.Scan

/-!
# A JSON text as a reader meets it

A text is read from left to right and only once, so a fault in it matters exactly when the reader
gets there. `Tree` keeps what a text says up to the place where it breaks off, with the fault as
the last leaf; whoever walks the tree in order meets the faults in the order of the text. Faults
inside a string or a number that do not hide its end stay at their leaf, and are passed over with
it.
-/

set_option autoImplicit false

namespace NetConsole.Json

/-- How the items of an array or the members of an object end. -/
inductive Close where
  /-- by the closing bracket -/
  | closed
  /-- by the end of the text -/
  | cut
  /-- by a character that is neither a comma nor the closing bracket -/
  | stray
  /-- by a comma before the closing bracket -/
  | commaClosed
  /-- by a comma before the end of the text -/
  | commaCut
  /-- by something other than a string where a key is due -/
  | badKey
  deriving DecidableEq, Repr, Inhabited

/-- What a reader of items reports about the end of an array. -/
def Close.ofItems : Close → Option Reason
  | .closed => none
  | .cut => some .endOfList
  | .commaClosed => some .trailingComma
  | .commaCut => some .endOfValue
  | .stray | .badKey => some .itemSeparatorDue

/-- What is reported about the end of an array that is passed over. -/
def Close.ofSkippedItems : Close → Option Reason
  | .closed => none
  | .cut => some .endOfList
  | .commaClosed => some .valueDue
  | .commaCut => some .endOfValue
  | .stray | .badKey => some .itemSeparatorDue

/-- What is reported about the end of an array after all the items that were wanted. -/
def Close.afterItems : Close → Option Reason
  | .closed => none
  | .cut => some .endOfList
  | .commaClosed => some .trailingComma
  | .commaCut | .stray | .badKey => some .trailingCharacters

/-- What a reader of members reports about the end of an object. -/
def Close.ofMembers : Close → Option Reason
  | .closed => none
  | .cut => some .endOfObject
  | .stray => some .memberSeparatorDue
  | .commaClosed => some .trailingComma
  | .commaCut => some .endOfValue
  | .badKey => some .keyNotString

/-- What is reported about the end of an object that is passed over. -/
def Close.ofSkippedMembers : Close → Option Reason
  | .closed => none
  | .cut | .commaCut => some .endOfObject
  | .stray => some .memberSeparatorDue
  | .commaClosed | .badKey => some .keyNotString

/-- What is reported about the end of an object after the one member that names a variant. -/
def Close.afterVariant : Close → Option Reason
  | .closed => none
  | .cut => some .endOfObject
  | .stray | .commaClosed | .commaCut | .badKey => some .valueDue

/-- A key of an object: its text, and the number that it may hold, with whether the closing quote
follows that number at once. -/
structure Key where
  text : Scan String
  numeral : Except Reason Number
  closed : Bool

/-- A text as far as it can be read. -/
inductive Tree where
  | null
  | bool (value : Bool)
  | number (scan : Scan Number)
  | string (scan : Scan String)
  | array (items : List Tree) (close : Close)
  | object (members : List (Key × Tree)) (close : Close)
  /-- no value, because of this cause -/
  | broken (reason : Reason)

/-- A whole text: its value, and whether anything but blanks follows. -/
structure Document where
  root : Tree
  trailing : Bool

/-! ## Building the tree -/

/-- The four characters that may stand between the parts of a text. -/
def isSpace (c : Char) : Bool := c == ' ' || c == '\n' || c == '\t' || c == '\r'

/-- A text from its first character that is no blank. -/
def skipSpace (cs : List Char) : List Char := cs.dropWhile isSpace

/-- The tree of a word that is announced by its first letter, given the rest of the word. -/
def word (value : Tree) : List Char → List Char → Tree × Option (List Char)
  | [], rest => (value, some rest)
  | _ :: _, [] => (.broken .endOfValue, none)
  | due :: more, c :: rest =>
      if c = due then word value more rest else (.broken .identDue, none)

/-- A key after its opening quote. -/
def scanKey (cs : List Char) : Key × Option (List Char) :=
  let (text, rest) := scanString cs
  let starts := match cs with
    | c :: _ => isDigit c || c == '-'
    | [] => false
  if starts then
    match lexNumber cs with
    | .ok (numeral, after) =>
        ({ text, numeral := numeral.value, closed := after.head? == some '"' }, rest)
    | .error reason => ({ text, numeral := .error reason, closed := false }, rest)
  else ({ text, numeral := .error .keyNotNumber, closed := false }, rest)

mutual

/-- The tree of the value at the front of a text, and the text after it unless it breaks off. The
fuel is more than twice the length of the text. -/
def scanValue : Nat → List Char → Tree × Option (List Char)
  | 0, _ => (.broken .endOfValue, none)
  | fuel + 1, cs =>
      match skipSpace cs with
      | [] => (.broken .endOfValue, none)
      | 'n' :: rest => word .null ['u', 'l', 'l'] rest
      | 't' :: rest => word (.bool true) ['r', 'u', 'e'] rest
      | 'f' :: rest => word (.bool false) ['a', 'l', 's', 'e'] rest
      | '"' :: rest =>
          let (scan, after) := scanString rest
          (.string scan, after)
      | '[' :: rest =>
          let (items, close, after) := scanItems fuel true rest
          (.array items close, after)
      | '\x7b' :: rest =>
          let (members, close, after) := scanMembers fuel true rest
          (.object members close, after)
      | c :: rest =>
          if c = '-' ∨ isDigit c then
            let (scan, after) := scanNumber (c :: rest)
            (.number scan, after)
          else (.broken .valueDue, none)

/-- The items of an array from a place where an item, a comma or the closing bracket is due. -/
def scanItems : Nat → Bool → List Char → List Tree × Close × Option (List Char)
  | 0, _, _ => ([], .cut, none)
  | fuel + 1, first, cs =>
      match skipSpace cs with
      | [] => ([], .cut, none)
      | ']' :: rest => ([], .closed, some rest)
      | c :: rest =>
          if first then scanItem fuel (c :: rest)
          else if c = ',' then
            match skipSpace rest with
            | [] => ([], .commaCut, none)
            | ']' :: _ => ([], .commaClosed, none)
            | more => scanItem fuel more
          else ([], .stray, none)

/-- An item, and the items after it. -/
def scanItem : Nat → List Char → List Tree × Close × Option (List Char)
  | 0, _ => ([], .cut, none)
  | fuel + 1, cs =>
      match scanValue fuel cs with
      | (item, none) => ([item], .cut, none)
      | (item, some rest) =>
          let (items, close, after) := scanItems fuel false rest
          (item :: items, close, after)

/-- The members of an object from a place where a key, a comma or the closing brace is due. -/
def scanMembers : Nat → Bool → List Char → List (Key × Tree) × Close × Option (List Char)
  | 0, _, _ => ([], .cut, none)
  | fuel + 1, first, cs =>
      match skipSpace cs with
      | [] => ([], .cut, none)
      | '\x7d' :: rest => ([], .closed, some rest)
      | c :: rest =>
          if first then
            if c = '"' then scanMember fuel rest else ([], .badKey, none)
          else if c = ',' then
            match skipSpace rest with
            | [] => ([], .commaCut, none)
            | '"' :: more => scanMember fuel more
            | '\x7d' :: _ => ([], .commaClosed, none)
            | _ => ([], .badKey, none)
          else ([], .stray, none)

/-- A member after the opening quote of its key, and the members after it. -/
def scanMember : Nat → List Char → List (Key × Tree) × Close × Option (List Char)
  | 0, _ => ([], .cut, none)
  | fuel + 1, cs =>
      match scanKey cs with
      | (key, none) => ([(key, .broken .endOfString)], .cut, none)
      | (key, some rest) =>
          match skipSpace rest with
          | [] => ([(key, .broken .endOfObject)], .cut, none)
          | ':' :: value =>
              match scanValue fuel value with
              | (tree, none) => ([(key, tree)], .cut, none)
              | (tree, some rest) =>
                  let (members, close, after) := scanMembers fuel false rest
                  ((key, tree) :: members, close, after)
          | _ => ([(key, .broken .colonDue)], .cut, none)

end

/-- The tree of a whole text. -/
def Document.ofChars (cs : List Char) : Document :=
  match scanValue (3 * cs.length + 3) cs with
  | (root, some rest) => { root, trailing := !(skipSpace rest).isEmpty }
  | (root, none) => { root, trailing := false }

/-! ## Walking the tree -/

/-- A reader stops if a cause is given. -/
def stopIf : Option Reason → Except Reason Unit
  | none => .ok ()
  | some reason => .error reason

/-- The levels that may still be opened inside an array or object; 127 may be open at once. -/
def enter : Nat → Except Reason Nat
  | 0 => .error .tooDeep
  | room + 1 => .ok room

/-- The number of levels that may be open at once. -/
def maxDepth : Nat := 127

namespace Tree

mutual

/-- Passing over a value: the fault that is met first. The depth is not limited. -/
def skip : Tree → Except Reason Unit
  | .null | .bool _ => .ok ()
  | .number scan => stopIf scan.skip
  | .string scan => stopIf scan.skip
  | .array items close => do skipItems items; stopIf close.ofSkippedItems
  | .object members close => do skipMembers members; stopIf close.ofSkippedMembers
  | .broken reason => .error reason

/-- Passing over items. -/
def skipItems : List Tree → Except Reason Unit
  | [] => .ok ()
  | item :: rest => do skip item; skipItems rest

/-- Passing over members. -/
def skipMembers : List (Key × Tree) → Except Reason Unit
  | [] => .ok ()
  | (key, tree) :: rest => do stopIf key.text.skip; skip tree; skipMembers rest

end

mutual

/-- Reading a value of any type. Objects come out sorted, the last of several members with one
key kept. -/
def value : Nat → Tree → Except Reason Json
  | _, .null => .ok .null
  | _, .bool b => .ok (.bool b)
  | _, .number scan => scan.read.map .number
  | _, .string scan => scan.read.map .string
  | room, .array items close => do
      let room ← enter room
      let items ← values room items
      stopIf close.ofItems
      return .array items
  | room, .object members close => do
      let room ← enter room
      let members ← memberValues room members
      stopIf close.ofMembers
      return .object (sortMembers members)
  | _, .broken reason => .error reason

/-- Reading items of any type. -/
def values : Nat → List Tree → Except Reason (List Json)
  | _, [] => .ok []
  | room, item :: rest => do
      let item ← value room item
      let rest ← values room rest
      return item :: rest

/-- Reading members of any type, in the order of the text. -/
def memberValues : Nat → List (Key × Tree) → Except Reason (List (String × Json))
  | _, [] => .ok []
  | room, (key, tree) :: rest => do
      let key ← key.text.read
      let value ← value room tree
      let rest ← memberValues room rest
      return (key, value) :: rest

end

/-- What a value is found to be by a reader that wanted another type. -/
def found : Tree → Except Reason Found
  | .null => .ok .null
  | .bool b => .ok (.bool b)
  | .number scan => scan.read.map .number
  | .string scan => scan.read.map .string
  | .array _ _ => .ok .sequence
  | .object _ _ => .ok .map
  | .broken reason => .error reason

/-- The refusal of a value by a reader that wanted another type. -/
def mismatch {α : Type} (tree : Tree) (expected : String) : Except Reason α := do
  let found ← tree.found
  throw (.invalidType found expected)

end Tree

/-- Reading a whole text: the value first, then nothing but blanks. -/
def Document.read {α : Type} (document : Document) (reader : Tree → Except Reason α) :
    Except Reason α := do
  let result ← reader document.root
  if document.trailing then throw .trailingCharacters
  return result

/-- The value of a text, of any type. -/
def parse (text : String) : Except Reason Json :=
  (Document.ofChars text.toList).read (Tree.value maxDepth)

end NetConsole.Json
