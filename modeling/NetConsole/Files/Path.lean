import NetConsole.Text.Utf8

/-!
# Paths

A place in a tree of files: the names that lead to it from the root. Texts are read and written at
the edges only.
-/

set_option autoImplicit false

namespace NetConsole

/-- The names from the root to a place. -/
abbrev Path := List String

namespace Path

/-- The longest name that a file may have, in bytes. -/
def maxNameBytes : Nat := 255

/-- Whether a file may have a name. -/
def isName (name : String) : Bool :=
  !name.toList.contains (Char.ofNat 0) && (Text.bytes name).length ≤ maxNameBytes

/-- The parts of a text between slashes. -/
def split : List Char → List (List Char)
  | [] => [[]]
  | '/' :: rest => [] :: split rest
  | c :: rest =>
      match split rest with
      | [] => [[c]]
      | part :: more => (c :: part) :: more

/-- One step along a path: an empty name or a dot stays, two dots lead back. -/
def follow (path : Path) (name : String) : Path :=
  if name = "" ∨ name = "." then path
  else if name = ".." then path.dropLast
  else path ++ [name]

/-- The place that the text of a path names. -/
def ofText (text : String) : Path :=
  ((split text.toList).map String.ofList).foldl follow []

/-- The text of a path from the root. -/
def toText (path : Path) : String := String.join (path.map ("/" ++ ·))

/-- The text of a path with a further part at its end. A part that starts at the root stands for
itself. -/
def joinText (base part : String) : String :=
  if part.startsWith "/" then part
  else if base = "" ∨ base.endsWith "/" then base ++ part
  else base ++ "/" ++ part

def joinTexts (base : String) (parts : List String) : String := parts.foldl joinText base

end Path

end NetConsole
