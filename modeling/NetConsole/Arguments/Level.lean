import NetConsole.Arguments.Grammar

/-!
# Levels of a command line

A command line goes from a command to one of its group, and so on. A level is what was read at one
of them. An option waits for its value, and a value that arrived is looked at no earlier than when
something else is read, so that a fault in what follows can be met before one in the value.
-/

set_option autoImplicit false

namespace NetConsole.Arguments

/-- An option or a place whose value has not been looked at yet, and may not even be there. -/
structure Pending where
  name : String
  kind : Kind
  value : Option String
  deriving DecidableEq, Repr, Inhabited

/-- What was read at a command: its parameters, the values given, what is pending, whether a double
dash closed it for parameters, and the number of places filled. -/
structure Level (α : Type) where
  command : Command α
  /-- the names that led here, as the version has them -/
  title : String
  /-- the release of the program, which the version has too -/
  release : String
  parameters : List Parameter
  given : List Given := []
  pending : Option Pending := none
  closed : Bool := false
  filled : Nat := 0

/-- The parameters that every command has. -/
def questions : List Parameter :=
  [{ name := "help", letter := some 'h', effect := .help },
    { name := "version", letter := some 'V', effect := .version }]

namespace Level

variable {α : Type}

def start (program : Program α) (title : String) (command : Command α) : Level α :=
  { command, title, release := program.release
    parameters := command.parameters ++ program.shared ++ questions }

/-! ## Giving values -/

def isGiven (level : Level α) (name : String) : Bool := level.given.any (·.name == name)

def put (level : Level α) (name : String) (source : Source) (value : Value) : Level α :=
  { level with given := level.given ++ [⟨name, source, value⟩] }

/-- Gives a value, which must be the first under its name. -/
def give (level : Level α) (name : String) (source : Source) (value : Except Stop Value) :
    Except Stop (Level α) :=
  if level.isGiven name then .error .givenTwice
  else value.map (level.put name source)

/-- Looks at what is pending. -/
def settle (level : Level α) : Except Stop (Level α) :=
  match level.pending with
  | none => .ok level
  | some ⟨_, _, none⟩ => .error .invalidValue
  | some ⟨name, kind, some s⟩ => { level with pending := none }.give name .line (kind.read s)

def awaits (level : Level α) : Bool :=
  match level.pending with
  | some ⟨_, _, none⟩ => true
  | _ => false

def maxTally : Int := 255

def tally (level : Level α) (name : String) : Level α :=
  let count := ((⟨level.given⟩ : Matches).integer name)
  let others := level.given.filter (·.name != name)
  { level with given := others }.put name .line (.integer (min (count + 1) maxTally))

def versionText (level : Level α) : String := level.title ++ " " ++ level.release ++ "\n"

/-- Takes a parameter that was given a value or none. One that comes without the value it wants
waits for it. -/
def take (level : Level α) (parameter : Parameter) (value : Option (List Char)) :
    Except Stop (Level α) :=
  match parameter.effect, value with
  | .value kind, some cs => do
      (← level.settle).give parameter.name .line (kind.read (String.ofList cs))
  | .value kind, none => do
      return { ← level.settle with pending := some ⟨parameter.name, kind, none⟩ }
  | _, some _ => .error .needlessValue
  | .mark, none => do (← level.settle).give parameter.name .line (.ok .given)
  | .tally, none => do return (← level.settle).tally parameter.name
  | .help, none => do
      let _ ← level.settle
      throw .help
  | .version, none => do
      let level ← level.settle
      throw (.version level.versionText)

/-! ## Reading an argument -/

/-- What is said of an argument for which there is no place. -/
def surplus (level : Level α) (argument : String) : Stop :=
  if !level.command.isGroup then .unknownArgument
  else if level.closed ∧ (argument = "help" ∨ (level.command.find? argument).isSome) then
    .unknownArgument
  else .unknownCommand

def nextPlace? (level : Level α) : Option Place := level.command.places[level.filled]?

def fillPlace (level : Level α) (argument : String) : Except Stop (Level α) :=
  match level.nextPlace? with
  | none => .error (level.surplus argument)
  | some place => do
      let level ← level.settle
      return { level with
        pending := some ⟨place.name, place.kind, some argument⟩
        filled := level.filled + 1 }

/-- Reads an argument that is no parameter: the value of an option that waits for one, or else one
for the next place. -/
def readPlain (level : Level α) (argument : String) : Except Stop (Level α) :=
  match level.pending with
  | some ⟨name, kind, none⟩ => .ok { level with pending := some ⟨name, kind, some argument⟩ }
  | _ => level.fillPlace argument

/-- Reads what follows two dashes: a name, and perhaps an equals sign and a value. -/
def readLong (level : Level α) (cs : List Char) : Except Stop (Level α) :=
  let name := String.ofList (cs.takeWhile (· ≠ '='))
  let value := match cs.dropWhile (· ≠ '=') with
    | [] => none
    | _ :: rest => some rest
  match level.parameters.find? (·.name == name) with
  | none => .error .unknownArgument
  | some parameter => level.take parameter value

/-- Reads a cluster of letters. The rest of it after the letter of an option is the value, with or
without an equals sign between them. -/
def readLetters (level : Level α) : List Char → Except Stop (Level α)
  | [] => .ok level
  | c :: rest =>
      match level.parameters.find? (·.letter == some c) with
      | none => .error .unknownArgument
      | some parameter =>
          match parameter.effect, rest with
          | .value _, [] => level.take parameter none
          | .value _, '=' :: value => level.take parameter (some value)
          | .value _, value => level.take parameter (some value)
          | _, _ => do (← level.take parameter none).readLetters rest

/-- Whether characters, and those before them in the number, go on as a number: digits, one point
before any exponent, one letter for the exponent, neither of them first, and something after the
letter. -/
def isNumberRest (first point exponent : Bool) : List Char → Bool
  | [] => true
  | c :: rest =>
      if c.isDigit then isNumberRest false point exponent rest
      else if c = '.' then !first && !point && !exponent && isNumberRest false true exponent rest
      else if c = 'e' ∨ c = 'E' then
        !first && !exponent && !rest.isEmpty && isNumberRest false point true rest
      else false

/-- Whether characters look like a number. -/
def looksLikeNumber (cs : List Char) : Bool := isNumberRest true false false cs

/-- Reads an argument at a level that is open for parameters. -/
def read (level : Level α) (argument : String) : Except Stop (Level α) :=
  match argument.toList with
  | ['-', '-'] => .ok { level with closed := true }
  | '-' :: '-' :: cs => level.readLong cs
  | '-' :: cs =>
      let isNegative := looksLikeNumber cs && (level.nextPlace?.map (·.allowsNegative)).getD false
      if isNegative || cs.isEmpty then level.readPlain argument else level.readLetters cs
  | _ => level.readPlain argument

/-! ## The end of a level -/

/-- Takes the value of a parameter from the environment if the line has none. -/
def consult (environment : List (String × String)) (level : Level α) (parameter : Parameter) :
    Except Stop (Level α) :=
  let found := parameter.standIn.bind fun name => environment.find? (·.1 == name)
  match parameter.effect, found with
  | .value kind, some (_, s) =>
      if level.isGiven parameter.name then .ok level
      else level.give parameter.name .environment (kind.read s)
  | _, _ => .ok level

/-- Ends a level after which no command follows: a group must not end there, and a leaf must have
its places filled. -/
def ended (level : Level α) : Except Stop Unit :=
  if level.command.isGroup then
    .error (if level.given.isEmpty then .nothingGiven else .commandMissing)
  else if (level.command.places.drop level.filled).any (·.required) then .error .placeMissing
  else .ok ()

end Level

end NetConsole.Arguments
