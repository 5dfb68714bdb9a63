import NetConsole.Decimal.Digits
import NetConsole.Decimal.Word

/-!
# Grammars of command lines

What may stand on a command line, as data: parameters with a name and perhaps a letter, places
filled in order, and commands that are groups of further commands or leaves. A leaf says what a
command line that ends at it means.
-/

set_option autoImplicit false

namespace NetConsole.Arguments

/-- What ends the reading of a command line before its command is known: a question for help or
for the version, or a misuse. -/
inductive Stop where
  /-- help was asked for -/
  | help
  /-- the version was asked for; this is what is said -/
  | version (text : String)
  /-- a group was named and nothing else -/
  | nothingGiven
  /-- a group was named without one of its commands -/
  | commandMissing
  /-- no command has the name -/
  | unknownCommand
  /-- a value is not one of those listed, or an option has none -/
  | invalidValue
  /-- a value cannot be read as a number -/
  | unreadableValue
  /-- no parameter has the name, or there is no place left -/
  | unknownArgument
  /-- a place that must be filled is not -/
  | placeMissing
  /-- a parameter was given twice -/
  | givenTwice
  /-- a parameter that takes no value was given one -/
  | needlessValue
  deriving DecidableEq, Repr, Inhabited

/-- The status with which a program exits for it: zero where an answer was wanted. -/
def Stop.exitStatus : Stop → Nat
  | .help | .version _ => 0
  | _ => 2

/-! ## Values -/

/-- A value that was read; a parameter without one stands as `given`. -/
inductive Value where
  | given
  | text (value : String)
  | integer (value : Int)
  deriving DecidableEq, Repr, Inhabited

/-- Which texts are values, and what they are. -/
inductive Kind where
  /-- any text -/
  | text
  /-- a path, which is not empty -/
  | path
  /-- an integer between bounds -/
  | integer (low high : Int)
  /-- a word of 64 bits, without a minus sign -/
  | word
  /-- one of some names -/
  | choice (names : List String)
  /-- one of some names in lower case, written in letters of either case -/
  | anyCaseChoice (names : List String)
  deriving DecidableEq, Repr, Inhabited

def Kind.word32 : Kind := .integer 0 (Decimal.words32 - 1)

def Kind.signed64 : Kind := .integer (-Decimal.half64) (Decimal.half64 - 1)

/-- The number that digits with or without a plus sign are. -/
def unsigned? (cs : List Char) : Option Nat :=
  match cs with
  | '+' :: digits => Decimal.numberIn? 10 digits
  | digits => Decimal.numberIn? 10 digits

/-- The integer that digits with or without a sign are. -/
def signed? (cs : List Char) : Option Int :=
  match cs with
  | '-' :: digits => (Decimal.numberIn? 10 digits).map fun n => -(n : Int)
  | cs => (unsigned? cs).map fun n => (n : Int)

/-- One of some names, or nothing of value. -/
def oneOf (names : List String) (name : String) : Except Stop Value :=
  if names.contains name then .ok (.text name) else .error .invalidValue

def bounded (low high : Int) : Option Int → Except Stop Value
  | some i => if low ≤ i ∧ i ≤ high then .ok (.integer i) else .error .unreadableValue
  | none => .error .unreadableValue

def Kind.read (kind : Kind) (s : String) : Except Stop Value :=
  match kind with
  | .text => .ok (.text s)
  | .path => if s = "" then .error .invalidValue else .ok (.text s)
  | .integer low high => bounded low high (signed? s.toList)
  | .word => bounded 0 (Decimal.words64 - 1) ((unsigned? s.toList).map fun n => (n : Int))
  | .choice names => oneOf names s
  | .anyCaseChoice names => oneOf names (String.ofList (s.toList.map Char.toLower))

/-! ## Parameters and places -/

/-- What giving a parameter does. -/
inductive Effect where
  /-- it is given, at most once -/
  | mark
  /-- it is counted -/
  | tally
  /-- it takes a value, at most once -/
  | value (kind : Kind)
  /-- it asks for help -/
  | help
  /-- it asks for the version -/
  | version
  deriving DecidableEq, Repr, Inhabited

/-- A parameter: its name after two dashes, its letter after one, what giving it does, and the
variable of the environment that stands in for it. -/
structure Parameter where
  name : String
  letter : Option Char := none
  effect : Effect
  standIn : Option String := none
  deriving DecidableEq, Repr, Inhabited

/-- A place for an argument without a name. -/
structure Place where
  name : String
  kind : Kind
  required : Bool := true
  /-- a number with a minus sign is a value here and not a cluster of letters -/
  allowsNegative : Bool := false
  deriving DecidableEq, Repr, Inhabited

/-! ## Matches -/

/-- Where a value comes from. -/
inductive Source where
  | line
  | environment
  deriving DecidableEq, Repr, Inhabited

/-- A value under the name of its parameter or place. -/
structure Given where
  name : String
  source : Source
  value : Value
  deriving DecidableEq, Repr, Inhabited

/-- The values of a command line. Of several under one name the first counts. -/
structure Matches where
  given : List Given
  deriving DecidableEq, Repr, Inhabited

namespace Matches

def find? (found : Matches) (name : String) : Option Value :=
  (found.given.find? (·.name == name)).map (·.value)

def has (found : Matches) (name : String) : Bool := (found.find? name).isSome

def text? (found : Matches) (name : String) : Option String :=
  match found.find? name with
  | some (.text s) => some s
  | _ => none

def integer? (found : Matches) (name : String) : Option Int :=
  match found.find? name with
  | some (.integer i) => some i
  | _ => none

def text (found : Matches) (name : String) : String := (found.text? name).getD ""

def integer (found : Matches) (name : String) : Int := (found.integer? name).getD 0

def number (found : Matches) (name : String) : Nat := (found.integer name).toNat

end Matches

/-! ## Commands -/

/-- A command: a group of commands, or a leaf with its own parameters and places and with what it
means. Both have a name and further names. -/
inductive Command (α : Type) where
  | group (name : String) (aliases : List String) (commands : List (Command α))
  | leaf (name : String) (aliases : List String) (parameters : List Parameter)
      (places : List Place) (meaning : Matches → α)

namespace Command

variable {α : Type}

def name : Command α → String
  | group name _ _ => name
  | leaf name _ _ _ _ => name

def names : Command α → List String
  | group name aliases _ => name :: aliases
  | leaf name aliases _ _ _ => name :: aliases

def commands : Command α → List (Command α)
  | group _ _ commands => commands
  | leaf _ _ _ _ _ => []

def parameters : Command α → List Parameter
  | group _ _ _ => []
  | leaf _ _ parameters _ _ => parameters

def places : Command α → List Place
  | group _ _ _ => []
  | leaf _ _ _ places _ => places

def isGroup : Command α → Bool
  | group _ _ _ => true
  | leaf _ _ _ _ _ => false

def find? (command : Command α) (name : String) : Option (Command α) :=
  command.commands.find? (·.names.contains name)

end Command

/-- A program: its release, the parameters that all its commands share, and its commands. -/
structure Program (α : Type) where
  release : String
  shared : List Parameter
  command : Command α

end NetConsole.Arguments
