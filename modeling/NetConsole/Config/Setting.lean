/-!
# Settings

The values that a configuration is put together from before its fields are looked at. Tables have
their keys in ascending order, each once; layers are put together key by key.
-/

set_option autoImplicit false

namespace NetConsole.Config

/-- A value in a layer of a configuration. No field of a configuration takes a number that is not
an integer, so nothing is kept of one. -/
inductive Setting where
  | flag (value : Bool)
  | integer (value : Int)
  | fraction
  | text (value : String)
  | list (items : List Setting)
  | table (members : List (String × Setting))
  deriving Repr, Inhabited

/-- The members of a table, with ascending keys. -/
abbrev Table := List (String × Setting)

namespace Table

def find? (table : Table) (key : String) : Option Setting :=
  (List.find? (fun member => member.1 == key) table).map (·.2)

def put (key : String) (value : Setting) : Table → Table
  | [] => [(key, value)]
  | (k, v) :: rest =>
      if key < k then (key, value) :: (k, v) :: rest
      else if k < key then (k, v) :: put key value rest
      else (key, value) :: rest

/-- The table of members in any order; of several with one key the last counts. -/
def ofMembers (members : List (String × Setting)) : Table :=
  members.foldl (fun table (key, value) => put key value table) []

end Table

mutual

/-- A value over another one: tables are put together, anything else replaces what it covers. -/
def Setting.above : Setting → Setting → Setting
  | .table upper, .table lower => .table (overTable upper lower)
  | upper, _ => upper

def overTable : List (String × Setting) → List (String × Setting) → List (String × Setting)
  | [], lower => lower
  | (key, value) :: rest, lower =>
      let covered := match Table.find? lower key with
        | some below => value.above below
        | none => value
      overTable rest (Table.put key covered lower)

end

/-- A value under a path of keys. -/
def nest : List String → Setting → Setting
  | [], value => value
  | key :: rest, value => .table [(key, nest rest value)]

end NetConsole.Config
