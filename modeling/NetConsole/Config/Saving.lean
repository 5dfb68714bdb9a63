import NetConsole.Config.Basic
import NetConsole.Decimal.Word
import NetConsole.Toml.Printer

/-!
# Saving a configuration

A configuration as the text of a file. What is not set is left out; a word that is too large for
the format keeps the configuration from being saved.
-/

set_option autoImplicit false

namespace NetConsole.Config

open Toml

/-- An entry for a value that is set. -/
def entryIf (key : String) : Option Literal → List (String × Literal)
  | none => []
  | some value => [(key, value)]

/-- A word as an entry; the largest one that fits is that of signed integers. -/
def wordEntry (key : String) (n : Nat) : Except Error (List (String × Literal)) :=
  if n < Decimal.half64 then .ok [(key, .integer n)] else .error .unwritable

def Defaults.part (d : Defaults) : Except Error Toml.Section := do
  let timeout ← wordEntry "timeout" d.timeout
  return ⟨["defaults"],
    [("output", .text d.output), ("color", .text d.color)] ++ timeout ++
      [("use_db", .flag d.useStore)]⟩

def Profile.part (name : String) (p : Profile) : Except Error Toml.Section := do
  let timeout ← match p.timeout with
    | none => pure []
    | some n => wordEntry "timeout" n
  return ⟨["profiles", name],
    [("controller", .text p.controller), ("site", .text p.site)] ++
      entryIf "username" (p.username.map .text) ++ entryIf "password" (p.password.map .text) ++
      entryIf "insecure" (p.insecure.map .flag) ++ entryIf "ca_cert" (p.caCert.map .text) ++
      timeout ++ entryIf "db_path" (p.storePath.map .text)⟩

def parts (config : Config) : Except Error (List Toml.Section) := do
  let top := match config.defaultProfile with
    | none => []
    | some name => [(⟨[], [("default_profile", .text name)]⟩ : Toml.Section)]
  let defaults ← config.defaults.part
  let profiles ← config.profiles.mapM fun (name, profile) => profile.part name
  return top ++ [defaults] ++ (if profiles.isEmpty then [⟨["profiles"], []⟩] else profiles)

def text (config : Config) : Except Error String := config.parts.map documentText

/-- Writes a configuration into a file, whose directory is made if it is missing. -/
def save (config : Config) (files : Files) (path : String) : Except Error Files := do
  let place := Path.ofText path
  match files.makeDirectory place.dropLast with
  | none => throw .files
  | some files =>
      match files.write place (← config.text) with
      | none => throw .files
      | some files => return files

end NetConsole.Config
