import NetConsole.Toml.Draft
import NetConsole.Toml.Scan

/-!
# TOML documents

Reading a document as a table. A document with a fault anywhere is refused as a whole; nobody asks
for the place of the fault. Loops count down from the number of characters of the document, which
no loop uses up since every step of one takes a character at least.
-/

set_option autoImplicit false

namespace NetConsole.Toml

open Config

/-! ## Keys -/

/-- The longest path that a key may have, and the number of lists and tables that a value may be
inside. -/
def maxSteps : Nat := 79

/-- One step of a key: a string on one line, or bare characters. -/
def simpleKey : List Char → Option (String × List Char)
  | '"' :: rest => (basicString rest).map fun (cs, rest) => (String.ofList cs, rest)
  | '\'' :: rest => (literalString rest).map fun (cs, rest) => (String.ofList cs, rest)
  | cs =>
      match cs.takeWhile isBare with
      | [] => none
      | name => some (String.ofList name, cs.dropWhile isBare)

/-- The steps of a key with dots between them; blanks may stand around each. -/
def keySteps : Nat → List Char → Option (List String × List Char)
  | 0, _ => none
  | fuel + 1, cs => do
      let (step, rest) ← simpleKey (skipBlanks cs)
      match skipBlanks rest with
      | '.' :: more =>
          let (steps, rest) ← keySteps fuel more
          return (step :: steps, rest)
      | rest => return ([step], rest)

/-- The path that a key is. -/
def keyPath (fuel : Nat) (cs : List Char) : Option (List String × List Char) := do
  let (path, rest) ← keySteps fuel cs
  if path.length ≤ maxSteps then return (path, rest) else none

/-! ## Values -/

/-- What follows blanks, line ends and comments. -/
def skipGaps : Nat → List Char → List Char
  | 0, cs => cs
  | fuel + 1, cs =>
      match skipBlanks cs with
      | '#' :: rest => skipGaps fuel (rest.dropWhile isPlain)
      | rest =>
          match afterLineEnd? rest with
          | some rest => skipGaps fuel rest
          | none => rest

mutual

/-- A value; `room` is the number of lists and tables that may still be opened. -/
def value : Nat → Nat → List Char → Option (Setting × List Char)
  | 0, _, _ => none
  | _, 0, '[' :: _ => none
  | _, 0, '\x7b' :: _ => none
  | fuel + 1, room + 1, '[' :: rest => do
      let (items, rest) ← listItems fuel room rest
      return (.list items, rest)
  | fuel + 1, room + 1, '\x7b' :: rest => do
      let (members, rest) ← inlineMembers fuel room true [] rest
      return (.table (tableOf members), rest)
  | _, _, cs =>
      match cs with
      | '"' :: _ | '\'' :: _ => (string cs).map fun (s, rest) => (.text (String.ofList s), rest)
      | _ => wordSetting cs

/-- The items of a list, from after its bracket or a comma. -/
def listItems : Nat → Nat → List Char → Option (List Setting × List Char)
  | 0, _, _ => none
  | fuel + 1, room, cs =>
      match skipGaps (fuel + 1) cs with
      | ']' :: rest => some ([], rest)
      | cs => do
          let (item, rest) ← value fuel room cs
          match skipGaps (fuel + 1) rest with
          | ']' :: rest => return ([item], rest)
          | ',' :: rest =>
              let (items, rest) ← listItems fuel room rest
              return (item :: items, rest)
          | _ => none

/-- The members of a table on one line, from after its brace or a comma. -/
def inlineMembers : Nat → Nat → Bool → Members → List Char → Option (Members × List Char)
  | 0, _, _, _, _ => none
  | fuel + 1, room, mayEnd, members, cs =>
      match mayEnd, skipBlanks cs with
      | true, '\x7d' :: rest => some (members, rest)
      | _, cs => do
          let (path, rest) ← keyPath (fuel + 1) cs
          match rest with
          | '=' :: rest =>
              let (setting, rest) ← value fuel room (skipBlanks rest)
              let members ← assign path setting members
              match skipBlanks rest with
              | '\x7d' :: rest => return (members, rest)
              | ',' :: rest => inlineMembers fuel room false members rest
              | _ => none
          | _ => none

end

/-! ## Lines -/

/-- What follows the rest of a line, on which there may be a comment only. -/
def afterLine? (cs : List Char) : Option (List Char) :=
  let rest := match skipBlanks cs with
    | '#' :: comment => comment.dropWhile isPlain
    | rest => rest
  match rest with
  | [] => some []
  | rest => afterLineEnd? rest

/-- A header up to the end of its line: the path between its brackets. -/
def header (fuel : Nat) (ending cs : List Char) : Option (List String × List Char) := do
  let (path, rest) ← keyPath fuel cs
  if ending.isPrefixOf rest then return (path, ← afterLine? (rest.drop ending.length)) else none

/-- The lines of a document. -/
def readLines : Nat → Draft → List Char → Option Draft
  | 0, _, _ => none
  | fuel + 1, draft, cs =>
      match skipBlanks cs with
      | [] => some draft
      | '#' :: rest => (afterLine? ('#' :: rest)).bind (readLines fuel draft)
      | '\n' :: rest => readLines fuel draft rest
      | '\r' :: rest => (afterLineEnd? ('\r' :: rest)).bind (readLines fuel draft)
      | '[' :: '[' :: rest => do
          let (path, rest) ← header (fuel + 1) [']', ']'] rest
          readLines fuel (← draft.openListed path) rest
      | '[' :: rest => do
          let (path, rest) ← header (fuel + 1) [']'] rest
          readLines fuel (← draft.openTable path) rest
      | cs => do
          let (path, rest) ← keyPath (fuel + 1) cs
          match rest with
          | '=' :: rest =>
              let (setting, rest) ← value (fuel + 1) maxSteps (skipBlanks rest)
              readLines fuel (← draft.put path setting) (← afterLine? rest)
          | _ => none

/-- The table that a document is, if it is one. A byte order mark before it is passed over. -/
def read? (text : String) : Option Table := do
  let cs := text.toList
  let cs := if cs.head? = some (Char.ofNat 0xFEFF) then cs.drop 1 else cs
  let draft ← readLines (cs.length + 1) .empty cs
  return tableOf (← draft.close)

end NetConsole.Toml
