import NetConsole.Config.Setting

/-!
# Tables in the making

The tables of a document as its lines are met, with how each came to be: a table may be opened once
by a header, may be filled by dotted keys as long as no header opened it, and may come first as a
mere step on the way to another one.
-/

set_option autoImplicit false

namespace NetConsole.Toml

open Config

/-- How a table came to be. -/
inductive Origin where
  /-- the top of a document, or opened by a header of its own -/
  | header
  /-- a step in the path of a header -/
  | step
  /-- a step in a dotted key -/
  | dotted
  deriving DecidableEq, Repr, Inhabited

/-- What is under a key: a finished value, a table, or a list of tables of which the last is the
one that can grow. -/
inductive Item where
  | value (setting : Setting)
  | table (origin : Origin) (members : List (String × Item))
  | tables (entries : List (List (String × Item)))
  deriving Inhabited

abbrev Members := List (String × Item)

def itemAt? (key : String) (members : Members) : Option Item :=
  (members.find? (·.1 == key)).map (·.2)

/-- The members with an item under a key, in place of any other. -/
def putItem (key : String) (item : Item) (members : Members) : Members :=
  members.filter (·.1 != key) ++ [(key, item)]

/-- The members with an item under a key that is not there yet. -/
def addItem (key : String) (item : Item) (members : Members) : Option Members :=
  if (itemAt? key members).isSome then none else some (putItem key item members)

/-- Changes the table at the end of a path; missing tables on the way are made. A dotted key does
not lead through tables that a header opened. -/
def descend (isDotted : Bool) (change : Origin → Members → Option Members) :
    List String → Origin → Members → Option Members
  | [], origin, members => change origin members
  | key :: path, _, members =>
      match itemAt? key members with
      | none =>
          let origin := if isDotted then .dotted else .step
          (descend isDotted change path origin []).map fun inner =>
            putItem key (.table origin inner) members
      | some (.value _) => none
      | some (.table origin inner) =>
          if isDotted ∧ origin = .header then none
          else
            (descend isDotted change path origin inner).map fun inner =>
              putItem key (.table origin inner) members
      | some (.tables entries) =>
          match entries.getLast? with
          | none => none
          | some last =>
              (descend isDotted change path .header last).map fun last =>
                putItem key (.tables (entries.dropLast ++ [last])) members

/-- The members with a value under a dotted key. A table on its way that a header only passed
through takes no keys from dotted ones. -/
def assign (path : List String) (setting : Setting) (members : Members) : Option Members :=
  match path.getLast? with
  | none => none
  | some key =>
      descend true (fun origin inner =>
          if path.length = 1 ∨ origin = .dotted then addItem key (.value setting) inner else none)
        path.dropLast .header members

/-- A document in the making: the tables that are closed, the path of the one that is open, whether
that is one of a list, and its members. -/
structure Draft where
  closed : Members
  path : List String
  isListed : Bool
  current : Members
  deriving Inhabited

namespace Draft

def empty : Draft := ⟨[], [], false, []⟩

/-- The closed tables after the open one is closed as well. -/
def close (draft : Draft) : Option Members :=
  match draft.path.getLast? with
  | none => some draft.current
  | some key =>
      descend false (fun _ inner =>
          if draft.isListed then
            match itemAt? key inner with
            | none => some (putItem key (.tables [draft.current]) inner)
            | some (.tables entries) =>
                some (putItem key (.tables (entries ++ [draft.current])) inner)
            | some _ => none
          else addItem key (.table .header draft.current) inner)
        draft.path.dropLast .header draft.closed

/-- What a header finds under its key: the members that are there already, if it may open the
table. -/
def opened? (key : String) (members : Members) : Option Members :=
  match itemAt? key members with
  | none => some []
  | some (.table .step inner) => some inner
  | some _ => none

/-- The members at the end of a path, if it leads through tables only. -/
def membersAt? : List String → Members → Option Members
  | [], members => some members
  | key :: path, members =>
      match itemAt? key members with
      | none => some []
      | some (.table _ inner) => membersAt? path inner
      | some (.tables entries) => entries.getLast?.bind (membersAt? path)
      | some (.value _) => none

/-- Opens a table by its header. -/
def openTable (draft : Draft) (path : List String) : Option Draft := do
  let closed ← draft.close
  let key ← path.getLast?
  let current ← opened? key (← membersAt? path.dropLast closed)
  let closed ← descend false (fun _ inner => some (inner.filter (·.1 != key))) path.dropLast
    .header closed
  return { closed, path, isListed := false, current }

/-- Opens one more table of a list by its header. -/
def openListed (draft : Draft) (path : List String) : Option Draft := do
  let closed ← draft.close
  let key ← path.getLast?
  let closed ← descend false (fun _ inner =>
      match itemAt? key inner with
      | none => some inner
      | some (.tables _) => some inner
      | some _ => none)
    path.dropLast .header closed
  return { closed, path, isListed := true, current := [] }

/-- Puts a value under a dotted key of the open table. -/
def put (draft : Draft) (path : List String) (setting : Setting) : Option Draft :=
  (assign path setting draft.current).map fun current => { draft with current }

end Draft

mutual

def Item.setting : Item → Setting
  | .value setting => setting
  | .table _ members => .table (tableOf members)
  | .tables entries => .list (tablesOf entries)

def tableOf : List (String × Item) → Table
  | [] => []
  | (key, item) :: rest => Table.put key item.setting (tableOf rest)

def tablesOf : List (List (String × Item)) → List Setting
  | [] => []
  | members :: rest => .table (tableOf members) :: tablesOf rest

end

end NetConsole.Toml
