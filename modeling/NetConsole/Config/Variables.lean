import NetConsole.Config.Setting
import NetConsole.Decimal.Word
import NetConsole.Environment
import NetConsole.Text.Blank
import NetConsole.Toml.Scan

/-!
# Settings in the environment

Variables whose names begin with `UNIFIED_` set the value at a path of keys: the rest of the name
in lower case, where two low lines lead one level down. A value is read as a truth value, a number,
a list, a table or a quoted text where it looks like one, and as a text otherwise.
-/

set_option autoImplicit false

namespace NetConsole.Config

open Decimal

/-! ## Values -/

def isGap (c : Char) : Bool :=
  c == ' ' || c == '\t' || c == '\n' || c == '\r' || c == '\x0c'

def skipGaps (cs : List Char) : List Char := cs.dropWhile isGap

/-- Whether a character ends a bare value. -/
def isSeparator (c : Char) : Bool :=
  c == ',' || c == '\x7b' || c == '\x7d' || c == '[' || c == ']'

/-- An integer: a word if it is not negative, else a signed one. -/
def integer? (cs : List Char) : Option Int :=
  match cs with
  | '-' :: digits =>
      (numberIn? 10 digits).bind fun n => if n ≤ half64 then some (-(n : Int)) else none
  | '+' :: digits =>
      (numberIn? 10 digits).bind fun n => if n < words64 then some (n : Int) else none
  | digits => (numberIn? 10 digits).bind fun n => if n < words64 then some (n : Int) else none

/-- Whether characters are a decimal with a point. -/
def isPointed (cs : List Char) : Bool :=
  cs.contains '.' && (decimal? (Toml.signed cs).2).isSome

def bareSetting (cs : List Char) : Setting :=
  let cs := Text.trimChars cs
  if isPointed cs then .fraction
  else
    match integer? cs with
    | some i => .integer i
    | none => .text (String.ofList cs)

/-- What follows a word at the front. -/
def afterWord? (word : String) (cs : List Char) : Option (List Char) :=
  if word.toList.isPrefixOf cs then some (cs.drop word.length) else none

/-- The key of a member: a quoted text, or letters, digits, dashes and low lines of ASCII. -/
def memberKey (cs : List Char) : Option (String × List Char) :=
  match cs with
  | '"' :: rest => (Toml.basicString rest).map fun (s, rest) => (String.ofList s, rest)
  | _ =>
      match cs.takeWhile Toml.isBare with
      | [] => none
      | name => some (String.ofList name, cs.dropWhile Toml.isBare)

mutual

/-- A value, and what follows it and the gaps after it. -/
def parseSetting : Nat → List Char → Option (Setting × List Char)
  | 0, _ => none
  | fuel + 1, cs => do
      let cs := skipGaps cs
      let (setting, rest) ← match afterWord? "true" cs, afterWord? "false" cs with
        | some rest, _ => pure (Setting.flag true, rest)
        | _, some rest => pure (Setting.flag false, rest)
        | none, none =>
            match cs with
            | '\x7b' :: rest =>
                (parseMembers fuel rest).map fun (members, rest) =>
                  (Setting.table (Table.ofMembers members), rest)
            | '[' :: rest =>
                (parseItems fuel rest).map fun (items, rest) => (Setting.list items, rest)
            | '"' :: rest =>
                (Toml.basicString rest).map fun (s, rest) => (Setting.text (String.ofList s), rest)
            | '\'' :: rest =>
                match rest with
                | c :: '\'' :: rest => some (Setting.text (String.singleton c), rest)
                | _ => none
            | cs =>
                some (bareSetting (cs.takeWhile (!isSeparator ·)),
                  cs.dropWhile (!isSeparator ·))
      return (setting, skipGaps rest)

/-- The items of a list, from after its bracket or a comma. -/
def parseItems : Nat → List Char → Option (List Setting × List Char)
  | 0, _ => none
  | _ + 1, ']' :: rest => some ([], rest)
  | fuel + 1, cs => do
      let (item, rest) ← parseSetting fuel cs
      match rest with
      | ']' :: rest => return ([item], rest)
      | ',' :: rest =>
          let (items, rest) ← parseItems fuel rest
          return (item :: items, rest)
      | _ => none

/-- The members of a table, from after its brace or a comma. -/
def parseMembers : Nat → List Char → Option (List (String × Setting) × List Char)
  | 0, _ => none
  | _ + 1, '\x7d' :: rest => some ([], rest)
  | fuel + 1, cs => do
      let (key, rest) ← memberKey (skipGaps cs)
      match skipGaps rest with
      | '=' :: rest =>
          let (setting, rest) ← parseSetting fuel rest
          match rest with
          | '\x7d' :: rest => return ([(key, setting)], rest)
          | ',' :: rest =>
              let (members, rest) ← parseMembers fuel rest
              return ((key, setting) :: members, rest)
          | _ => none
      | _ => none

end

/-- The setting that the value of a variable is. A value that is not well formed is a text. -/
def settingOfValue (value : String) : Setting :=
  let cs := Text.trimChars value.toList
  match parseSetting (2 * cs.length + 2) cs with
  | some (setting, []) => setting
  | _ => .text (String.ofList cs)

/-! ## Names -/

/-- What the names of variables that are settings begin with. -/
def variableMark : String := "UNIFIED_"

/-- The parts of a name between dots and pairs of low lines. -/
def splitName : List Char → List (List Char)
  | [] => [[]]
  | '_' :: '_' :: rest => [] :: splitName rest
  | '.' :: rest => [] :: splitName rest
  | c :: rest =>
      match splitName rest with
      | [] => [[c]]
      | part :: more => (c :: part) :: more

/-- The path of keys that a variable sets; nothing if its name is another one or has an empty
part. -/
def settingPath? (name : String) : Option (List String) :=
  let mark := variableMark.toList.map Char.toLower
  let lowered := name.toList.map Char.toLower
  if !mark.isPrefixOf lowered then none
  else
    let parts := splitName (lowered.drop mark.length)
    if parts.any List.isEmpty then none else some (parts.map String.ofList)

/-- The layer of settings that an environment is, later variables over earlier ones. -/
def ofEnvironment (environment : Environment) : Table :=
  environment.foldl (fun table (name, value) =>
    match settingPath? name with
    | none => table
    | some path =>
        match nest path (settingOfValue value) with
        | .table members => overTable members table
        | _ => table) []

end NetConsole.Config
