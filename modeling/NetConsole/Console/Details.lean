import NetConsole.Console.Time
import NetConsole.Text.Utf8

/-!
# Details

Lines of keys and values for a single record.
-/

set_option autoImplicit false

namespace NetConsole.Console

/-- A text, or a dash in its place. -/
def orDash (value : Option String) : String := value.getD dash

/-- An integer, or a dash in its place. -/
def integerOrDash (value : Option Int) : String := orDash (value.map toString)

def yesOrNo (value : Bool) : String := if value then "yes" else "no"

/-- A text filled up with blanks to a number of characters. -/
def fill (count : Nat) (s : String) : String :=
  s ++ String.ofList (List.replicate (count - s.length) ' ')

/-- Keys and values, one pair a line. The values begin after the longest key, which is measured
in bytes. -/
def details (pairs : List (String × String)) : String :=
  let column := (pairs.map fun pair => (Text.bytes pair.1).length).foldl max 0
  "\n".intercalate (pairs.map fun (key, value) => fill column key ++ "  " ++ value)

end NetConsole.Console
