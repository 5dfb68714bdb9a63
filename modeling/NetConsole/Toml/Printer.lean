import NetConsole.Json.Printer

/-!
# Writing TOML

Strings in the plainest form that can hold them, and documents as sections with a blank line
between them.
-/

set_option autoImplicit false

namespace NetConsole.Toml

/-! ## Strings -/

/-- The length of the longest run of a character. -/
def longestRun (c : Char) : List Char → Nat
  | [] => 0
  | d :: rest => max ((d :: rest).takeWhile (· == c)).length (longestRun c rest)

/-- Whether a character can only be written as an escape: controls other than the tab and the line
feed. -/
def needsEscape (c : Char) : Bool :=
  (c.toNat < 0x20 && c != '\t' && c != '\n') || c.toNat == 0x7F

/-- A number in four upper-case hexadecimal digits. -/
def fourDigits (n : Nat) : List Char :=
  [n / 4096, n / 256, n / 16, n].map fun d => (Nat.digitChar (d % 16)).toUpper

/-- How a character other than a quote is written between double quotes; line feeds stand for
themselves in strings of several lines. -/
def escapedChar (several : Bool) (c : Char) : List Char :=
  if c.toNat = 8 then ['\\', 'b']
  else if c = '\t' then ['\\', 't']
  else if c = '\n' then if several then [c] else ['\\', 'n']
  else if c.toNat = 12 then ['\\', 'f']
  else if c = '\r' then ['\\', 'r']
  else if c = '\\' then ['\\', '\\']
  else if needsEscape c then '\\' :: 'u' :: fourDigits c.toNat
  else [c]

/-- Characters between double quotes. `allowed` quotes in a row stand for themselves, the one
after them is escaped; `run` counts those that stand directly before. -/
def escapedChars (several : Bool) (allowed : Nat) : Nat → List Char → List Char
  | _, [] => []
  | run, c :: rest =>
      if c = '"' then
        if run < allowed then c :: escapedChars several allowed (run + 1) rest
        else '\\' :: '"' :: escapedChars several allowed 0 rest
      else escapedChar several c ++ escapedChars several allowed 0 rest

def quotes (count : Nat) (c : Char) : List Char := List.replicate count c

/-- A string on one line between double quotes. -/
def basicChars (cs : List Char) : List Char := '"' :: (escapedChars false 0 0 cs ++ ['"'])

/-- A string of several lines between double quotes. -/
def basicLinesChars (cs : List Char) : List Char :=
  quotes 3 '"' ++ (if cs.contains '\n' then ['\n'] else []) ++ escapedChars true 2 0 cs ++
    quotes 3 '"'

/-- A string of several lines between single quotes. -/
def literalLinesChars (cs : List Char) : List Char :=
  quotes 3 '\'' ++ (if cs.contains '\n' then ['\n'] else []) ++ cs ++ quotes 3 '\''

/-- A string. Double quotes are preferred where nothing has to be escaped, then single ones, then
the forms of several lines. -/
def stringChars (cs : List Char) : List Char :=
  let controls := cs.any needsEscape
  let backslash := cs.contains '\\'
  let breaks := cs.contains '\n'
  let doubles := longestRun '"' cs
  let singles := longestRun '\'' cs
  if !controls && !backslash && doubles == 0 && !breaks then basicChars cs
  else if !controls && singles == 0 && !breaks then '\'' :: (cs ++ ['\''])
  else if !controls && !backslash && doubles ≤ 2 then basicLinesChars cs
  else if !controls && singles ≤ 2 then literalLinesChars cs
  else if breaks then basicLinesChars cs
  else basicChars cs

/-- A key: bare if it can be, else a string on one line. -/
def keyChars (key : String) : List Char :=
  let cs := key.toList
  let controls := cs.any fun c => needsEscape c || c == '\n'
  if !cs.isEmpty && cs.all (fun c => c.isAlphanum || c == '-' || c == '_') then cs
  else if !controls && !cs.contains '\\' && !cs.contains '"' then basicChars cs
  else if !controls && !cs.contains '\'' then '\'' :: (cs ++ ['\''])
  else basicChars cs

/-! ## Documents -/

/-- A value on one line. -/
inductive Literal where
  | text (value : String)
  | integer (value : Int)
  | flag (value : Bool)
  deriving DecidableEq, Repr, Inhabited

def Literal.chars : Literal → List Char
  | .text s => stringChars s.toList
  | .integer i => Json.integerChars i
  | .flag true => ['t', 'r', 'u', 'e']
  | .flag false => ['f', 'a', 'l', 's', 'e']

/-- A section: the path of its table and the values in it. -/
structure Section where
  path : List String
  entries : List (String × Literal)
  deriving DecidableEq, Repr, Inhabited

/-- A key with its value on a line. -/
def entryChars (entry : String × Literal) : List Char :=
  keyChars entry.1 ++ [' ', '=', ' '] ++ entry.2.chars ++ ['\n']

/-- The lines of a section; the top of a document has no header. -/
def Section.chars (part : Section) : List Char :=
  (match part.path with
    | [] => []
    | path => '[' :: (['.'].intercalate (path.map keyChars) ++ [']', '\n'])) ++
    part.entries.flatMap entryChars

/-- The text of a document, with a blank line between sections. -/
def documentText (sections : List Section) : String :=
  String.ofList (['\n'].intercalate (sections.map Section.chars))

end NetConsole.Toml
