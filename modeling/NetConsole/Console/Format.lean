import NetConsole.Console.Details
import NetConsole.Console.Table
import NetConsole.Json.Record
import NetConsole.Yaml.Printer

/-!
# Formats of output

The forms in which records are shown: for people as tables and details, for programs as JSON, YAML
or bare identifiers.
-/

set_option autoImplicit false

namespace NetConsole.Console

/-- A form in which records are shown. -/
inductive Format where
  | table
  | json
  | jsonCompact
  | yaml
  | plain
  deriving DecidableEq, Repr, Inhabited

def lowerAscii (s : String) : String := String.ofList (s.toList.map Char.toLower)

namespace Format

def name : Format → String
  | .table => "table"
  | .json => "json"
  | .jsonCompact => "json-compact"
  | .yaml => "yaml"
  | .plain => "plain"

def every : List Format := [.table, .json, .jsonCompact, .yaml, .plain]

def ofName? (text : String) : Option Format := every.find? (·.name == lowerAscii text)

end Format

/-- How a list of values is shown. -/
structure Listing (α : Type) where
  value : α → Json
  identifier : α → String
  header : List String
  row : α → List String

/-- How a single value is shown. -/
structure Sheet (α : Type) where
  value : α → Json
  identifier : α → String
  details : α → String

/-- A list of values in a format. -/
def Listing.text {α : Type} (listing : Listing α) (format : Format) (items : List α) : String :=
  match format with
  | .table => table listing.header (items.map listing.row)
  | .json => (Json.array (items.map listing.value)).pretty
  | .jsonCompact => (Json.array (items.map listing.value)).compact
  | .yaml => Yaml.document (.array (items.map listing.value))
  | .plain => "\n".intercalate (items.map listing.identifier)

/-- A single value in a format. -/
def Sheet.text {α : Type} (sheet : Sheet α) (format : Format) (item : α) : String :=
  match format with
  | .table => sheet.details item
  | .json => (sheet.value item).pretty
  | .jsonCompact => (sheet.value item).compact
  | .yaml => Yaml.document (sheet.value item)
  | .plain => sheet.identifier item

end NetConsole.Console
