import NetConsole.Json.Printer
import NetConsole.Text.Utf8
import NetConsole.Yaml.Scalar

/-!
# Writing YAML

The text of a value as a YAML document: collections as blocks, lists under a key at the level of
the key, empty collections in brackets. Every node ends its line.
-/

set_option autoImplicit false

namespace NetConsole.Yaml

/-- Where a node stands: at the top, after the mark of an item or of a long key or its value, or
after a key on the same line. -/
inductive Place where
  | top
  | mark
  | key
  deriving DecidableEq, Repr, Inhabited

def blanks (count : Nat) : List Char := List.replicate count ' '

/-! ## Scalars -/

def upperHex (n : Nat) : Char := (Nat.digitChar (n % 16)).toUpper

/-- A number in a count of digits. -/
def hexDigits : Nat → Nat → List Char
  | 0, _ => []
  | count + 1, n => hexDigits count (n / 16) ++ [upperHex n]

/-- A character between double quotes. -/
def escapedChar (c : Char) : List Char :=
  let n := c.toNat
  if isPrintable c && !isBreak c && c != '"' && c != '\\' then [c]
  else
    let short := fun (letter : Char) => ['\\', letter]
    if n = 0 then short '0'
    else if n = 7 then short 'a'
    else if n = 8 then short 'b'
    else if n = 9 then short 't'
    else if n = 10 then short 'n'
    else if n = 11 then short 'v'
    else if n = 12 then short 'f'
    else if n = 13 then short 'r'
    else if n = 27 then short 'e'
    else if c = '"' then short '"'
    else if c = '\\' then short '\\'
    else if n = 0x85 then short 'N'
    else if n = 0xA0 then short '_'
    else if n = 0x2028 then short 'L'
    else if n = 0x2029 then short 'P'
    else if n ≤ 0xFF then '\\' :: 'x' :: hexDigits 2 n
    else if n ≤ 0xFFFF then '\\' :: 'u' :: hexDigits 4 n
    else '\\' :: 'U' :: hexDigits 8 n

/-- Text between single quotes; what follows the end of a line is indented. -/
def singleChars (indent : Nat) : Bool → List Char → List Char
  | afterBreak, [] => if afterBreak then blanks indent else []
  | afterBreak, c :: rest =>
      if isBreak c then c :: singleChars indent true rest
      else
        (if afterBreak then blanks indent else []) ++
          (if c = '\'' then ['\'', '\''] else [c]) ++ singleChars indent false rest

/-- The lines of a literal block, each indented; empty lines stay empty. -/
def literalChars (indent : Nat) : Bool → List Char → List Char
  | _, [] => []
  | atStart, c :: rest =>
      if isBreak c then c :: literalChars indent true rest
      else (if atStart then blanks indent else []) ++ c :: literalChars indent false rest

/-- What is said about a literal block: that its first line begins with a gap, and whether its
last line ends or several empty ones follow it. -/
def literalHints (cs : List Char) : List Char :=
  let startsBlank := match cs with
    | c :: _ => c == ' ' || isBreak c
    | [] => false
  let ending := match cs.reverse with
    | [] => ['-']
    | [last] => if isBreak last then ['+'] else ['-']
    | last :: before :: _ =>
        if !isBreak last then ['-'] else if isBreak before then ['+'] else []
  (if startsBlank then ['2'] else []) ++ ending

/-- A literal block with the end of its last line. -/
def literalBlock (indent : Nat) (cs : List Char) : List Char :=
  let closed := match cs.getLast? with
    | some c => isBreak c
    | none => false
  '|' :: (literalHints cs ++ '\n' :: literalChars indent true cs ++ if closed then [] else ['\n'])

/-- A text in a style other than a block; `indent` is that of lines after its first. -/
def flowScalar (indent : Nat) (style : Style) (s : String) : List Char :=
  match style with
  | .single => '\'' :: (singleChars indent false s.toList ++ ['\''])
  | .double => '"' :: (s.toList.flatMap escapedChar ++ ['"'])
  | _ => s.toList

/-- A text with the end of its line; `indent` is that of lines after its first. -/
def scalar (indent : Nat) (s : String) : List Char :=
  match styleOf false s with
  | .literal => literalBlock indent s.toList
  | style => flowScalar indent style s ++ ['\n']

/-- The text of a double: as in JSON, but a positive exponent has no sign. -/
def fractionChars (x : Decimal.Binary64) : List Char :=
  let cs := Json.fractionChars x
  let front := cs.takeWhile (· ≠ 'e')
  match cs.dropWhile (· ≠ 'e') with
  | 'e' :: '+' :: digits => front ++ 'e' :: digits
  | rest => front ++ rest

/-- A scalar value other than a text. -/
def plainChars : Json → List Char
  | .number (.fraction x) => fractionChars x
  | other => Json.compactChars other

/-! ## Nodes -/

/-- The longest key that stands on the line of its value, in bytes. -/
def maxKeyBytes : Nat := 128

def isShortKey (key : String) : Bool :=
  !key.toList.any isBreak && (Text.bytes key).length ≤ maxKeyBytes

/-- What separates a node on one line from what stands before it. -/
def gap : Place → List Char
  | .top => []
  | _ => [' ']

/-- A block after what stands before it: on the same line after a mark, else on lines of its
own. -/
def placed (place : Place) (indent : Nat) (block : List Char) : List Char :=
  match place with
  | .top => block
  | .mark => ' ' :: block.drop indent
  | .key => '\n' :: block

/-- The indentation of the members of an object, of the lines of a text, and of all else that is
below a node. -/
def below (place : Place) (indent : Nat) : Nat :=
  match place with
  | .top => 0
  | _ => indent + 2

/-- The indentation of the items of a list: under a key that of the key. -/
def itemsIndent (place : Place) (indent : Nat) : Nat :=
  match place with
  | .key => indent
  | other => below other indent

mutual

/-- A node below what is indented by `indent`. -/
def node (place : Place) (indent : Nat) : Json → List Char
  | .array [] => gap place ++ ['[', ']', '\n']
  | .object [] => gap place ++ ['\x7b', '\x7d', '\n']
  | .array (item :: rest) =>
      placed place (itemsIndent place indent) (itemBlock (itemsIndent place indent) (item :: rest))
  | .object (member :: rest) =>
      placed place (below place indent) (memberBlock (below place indent) (member :: rest))
  | .string s => gap place ++ scalar (match place with | .top => 2 | _ => indent + 2) s
  | other => gap place ++ plainChars other ++ ['\n']

/-- The items of a list, each after a dash. -/
def itemBlock (indent : Nat) : List Json → List Char
  | [] => []
  | item :: rest => blanks indent ++ '-' :: node .mark indent item ++ itemBlock indent rest

/-- The members of an object, each after its key. A key that cannot stand on the line of its value
gets a line of its own, after a question mark. -/
def memberBlock (indent : Nat) : List (String × Json) → List Char
  | [] => []
  | (key, value) :: rest =>
      (if isShortKey key then
        blanks indent ++ flowScalar indent (styleOf true key) key ++ ':' :: node .key indent value
      else
        blanks indent ++ '?' :: ' ' :: scalar (indent + 2) key ++
          blanks indent ++ ':' :: node .mark indent value) ++
        memberBlock indent rest

end

/-- The document of a value. -/
def document (value : Json) : String := String.ofList (node .top 0 value)

end NetConsole.Yaml
