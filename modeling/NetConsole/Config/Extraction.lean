import NetConsole.Config.Basic
import NetConsole.Config.Setting

/-!
# From settings to fields

Reading a setting as a shape. Tables are read member by member in the order of their keys, before
it is asked what is missing; a list can stand for a record, its items for the fields in their
order. The first flaw that is met is the one reported, with the path that leads to it.
-/

set_option autoImplicit false

namespace NetConsole.Config

open Json

def flawed {α : Type} (flaw : Flaw) (path : List String) : Except Error α :=
  .error (.unreadable flaw path)

/-- A setting without parts, read as a shape. -/
def readScalarSetting (shape : Shape) (path : List String) (setting : Setting) :
    Except Error Json :=
  match shape, setting with
  | .text, .text s => .ok (.string s)
  | .flag, .flag b => .ok (.bool b)
  | .integer low high _, .integer i =>
      if low ≤ i ∧ i ≤ high then .ok (ofInteger i) else flawed .wrongValue path
  | _, _ => flawed .wrongType path

/-- The fields of a record in their order, from those that were met. -/
def completeSettings (path : List String) (met : List (String × Json)) :
    List Field → Except Error (List (String × Json))
  | [] => .ok []
  | field :: rest => do
      let value ← match lookup field.key met with
        | some value => pure value
        | none =>
            match field.absence.ofKey? with
            | some value => pure value
            | none => flawed .missingField path
      let rest ← completeSettings path met rest
      return (field.key, value) :: rest

/-- The fields beyond the end of a list. -/
def fillSettings (path : List String) : List Field → Except Error (List (String × Json))
  | [] => .ok []
  | field :: rest =>
      match field.absence.ofPosition? with
      | none => flawed .wrongLength path
      | some value => do
          let rest ← fillSettings path rest
          return (field.key, value) :: rest

mutual

/-- A setting at a path, read as a shape. -/
def readSetting : Shape → List String → Setting → Except Error Json
  | shape, path, .list items =>
      match shape.base.2 with
      | .record _ fields _ => (readItems fields path 0 items).map .object
      | _ => flawed .wrongType path
  | shape, path, .table members =>
      match shape.base.2 with
      | .record _ fields _ => do
          let met ← readKnown fields path members
          let fields ← completeSettings path met fields
          return .object fields
      | .keyed item => (readAll item path members).map .object
      | _ => flawed .wrongType path
  | shape, path, scalar => readScalarSetting shape.base.2 path scalar

/-- The items of a list, read as the fields of a record; items beyond the last field are passed
over. -/
def readItems : List Field → List String → Nat → List Setting →
    Except Error (List (String × Json))
  | [], _, _, _ => .ok []
  | fields, path, _, [] => fillSettings path fields
  | field :: fields, path, position, item :: items => do
      let value ← readSetting field.shape (path ++ [toString position]) item
      let rest ← readItems fields path (position + 1) items
      return (field.key, value) :: rest

/-- The members of a table that are fields of a record; others are passed over. -/
def readKnown : List Field → List String → List (String × Setting) →
    Except Error (List (String × Json))
  | _, _, [] => .ok []
  | fields, path, (key, setting) :: rest => do
      match fieldOf fields key with
      | none => readKnown fields path rest
      | some field =>
          let value ← readSetting field.shape (path ++ [key]) setting
          let rest ← readKnown fields path rest
          return (key, value) :: rest

/-- The members of a table, all read as one shape. -/
def readAll : Shape → List String → List (String × Setting) →
    Except Error (List (String × Json))
  | _, _, [] => .ok []
  | shape, path, (key, setting) :: rest => do
      let value ← readSetting shape (path ++ [key]) setting
      let rest ← readAll shape path rest
      return (key, value) :: rest

end

/-- The configuration that a table of settings is. -/
def ofSettings (table : Table) : Except Error Config :=
  (readSetting shape [] (.table table)).map ofJson

mutual

/-- A value as a setting; nothing for `null`. -/
def settingOfJson? : Json → Option Setting
  | .null => none
  | .bool b => some (.flag b)
  | .number (.integer i) => some (.integer i)
  | .number (.fraction _) => some .fraction
  | .string s => some (.text s)
  | .array items => some (.list (settingsOfItems items))
  | .object members => some (.table (Table.ofMembers (settingsOfMembers members)))

/-- The items of an array as settings. -/
def settingsOfItems : List Json → List Setting
  | [] => []
  | item :: rest => (settingOfJson? item).toList ++ settingsOfItems rest

/-- The members of an object as settings. -/
def settingsOfMembers : List (String × Json) → List (String × Setting)
  | [] => []
  | (key, value) :: rest =>
      ((settingOfJson? value).map fun setting => (key, setting)).toList ++ settingsOfMembers rest

end

/-- A configuration as a table of settings. -/
def settings (config : Config) : Table :=
  Table.ofMembers (settingsOfMembers config.members)

end NetConsole.Config
