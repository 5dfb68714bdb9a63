import NetConsole.Arguments.Level
import NetConsole.Environment

/-!
# Reading command lines

A command line is read from left to right, from level to level. Then the levels are ended from the
innermost to the outermost. A value on the line counts before one in the environment, and of
several on the line the innermost.
-/

set_option autoImplicit false

namespace NetConsole.Arguments

variable {α : Type}

/-- Follows the names of commands after `help`. Help itself counts as a command of every group. -/
def helpOn : Command α → List String → Stop
  | _, [] => .help
  | command, name :: rest =>
      match command.find? name with
      | some next => helpOn next rest
      | none =>
          if command.isGroup ∧ name = "help" ∧ rest = [] then .help else .unknownCommand

/-- What an argument leads to at a level that is open and waits for no value. -/
inductive Lead (α : Type) where
  | help
  | command (command : Command α)
  | argument

def Level.lead (level : Level α) (argument : String) : Lead α :=
  if level.closed || level.awaits then .argument
  else
    match level.command.find? argument with
    | some command => .command command
    | none => if level.command.isGroup ∧ argument = "help" then .help else .argument

/-- Reads arguments at a level inside others; yields the levels, the innermost first. -/
def readLevels (program : Program α) : Level α → List (Level α) → List String →
    Except Stop (Level α × List (Level α))
  | level, outer, [] => .ok (level, outer)
  | level, outer, argument :: rest =>
      match level.lead argument with
      | .help => .error (helpOn level.command rest)
      | .command command =>
          let inner := Level.start program (level.title ++ "-" ++ command.name) command
          readLevels program inner (level :: outer) rest
      | .argument => do
          let level ← if level.closed then level.fillPlace argument else level.read argument
          readLevels program level outer rest

/-- Looks at what is pending at a level and at the environment. -/
def Level.complete (environment : Environment) (level : Level α) : Except Stop (Level α) := do
  let level ← level.settle
  level.parameters.foldlM (Level.consult environment) level

/-- The values of levels, the innermost first: those on the line before those of the
environment. -/
def gather (levels : List (Level α)) : Matches :=
  let given := levels.flatMap (·.given)
  ⟨given.filter (·.source == .line) ++ given.filter (·.source == .environment)⟩

/-- What a command line means: the values on it and the meaning of its leaf. -/
def read (program : Program α) (environment : Environment) (arguments : List String) :
    Except Stop (Matches × α) := do
  let start := Level.start program program.command.name program.command
  let (innermost, outer) ← readLevels program start [] arguments
  let innermost ← innermost.complete environment
  innermost.ended
  let outer ← outer.mapM (Level.complete environment)
  let found := gather (innermost :: outer)
  match innermost.command with
  | .leaf _ _ _ _ meaning => return (found, meaning found)
  | .group _ _ _ => throw .commandMissing

end NetConsole.Arguments
