import NetConsole.Decimal.Digits
import NetConsole.Decimal.Word
import NetConsole.Json.Basic

/-!
# Styles of scalars

A text can stand in a YAML document plain, between single quotes, between double quotes, or as a
literal block. Plain is used where the text can be read back as a text and nothing in it could be
taken for markup.
-/

set_option autoImplicit false

namespace NetConsole.Yaml

open Decimal

/-- How a text stands in a document. -/
inductive Style where
  | plain
  | single
  | double
  | literal
  deriving DecidableEq, Repr, Inhabited

/-! ## Texts that read as other values -/

/-- The words for no value. -/
def nullWords : List String := ["null", "Null", "NULL", "~"]

def flagWords : List String := ["true", "True", "TRUE", "false", "False", "FALSE"]

/-- Characters without a text at their front, if they have it there. -/
def after? (front : String) (cs : List Char) : Option (List Char) :=
  if front.toList.isPrefixOf cs then some (cs.drop front.length) else none

/-- Characters without a plus sign at their front. -/
def unsigned (cs : List Char) : List Char :=
  match cs with
  | '+' :: rest => rest
  | _ => cs

/-- Whether a text has a zero before other digits, and digits only. Such a text is no number. -/
def hasLeadingZero (cs : List Char) : Bool :=
  let bare := match cs with
    | '+' :: rest => rest
    | '-' :: rest => rest
    | _ => cs
  match bare with
  | '0' :: c :: rest => (c :: rest).all fun c => '0' ≤ c && c ≤ '9'
  | _ => false

/-- The bases with a mark of their own. -/
def markedBases : List (String × Nat) := [("0x", 16), ("0o", 8), ("0b", 2)]

/-- Whether a text reads as an integer that is not negative. -/
def isNatural (cs : List Char) : Bool :=
  let bare := unsigned cs
  let fits := fun (n : Option Nat) => match n with
    | some n => n < words128
    | none => false
  markedBases.any (fun (mark, base) => fits ((after? mark bare).bind (numberIn? base))) ||
    (!hasLeadingZero cs && fits (numberIn? 10 bare))

/-- Whether a text reads as an integer with a minus sign. -/
def isNegative (cs : List Char) : Bool :=
  let fits := fun (n : Option Nat) => match n with
    | some n => n ≤ half128
    | none => false
  markedBases.any (fun (mark, base) => fits ((after? ("-" ++ mark) cs).bind (numberIn? base))) ||
    (!hasLeadingZero cs && fits ((after? "-" cs).bind (numberIn? 10)))

/-- Whether a text is the decimal form of a double. -/
def isDecimal (cs : List Char) : Bool :=
  match decimal? cs with
  | some (digits, exponent) => isFinite digits exponent
  | none => false

/-- The words for doubles that have no decimal form. -/
def specialNumbers : List String :=
  [".inf", ".Inf", ".INF", "+.inf", "+.Inf", "+.INF", "-.inf", "-.Inf", "-.INF",
    ".nan", ".NaN", ".NAN"]

/-- Whether a text reads as a double. -/
def isDouble (cs : List Char) : Bool :=
  let bare := match cs with
    | '+' :: '-' :: _ => []
    | '+' :: rest => rest
    | '-' :: rest => rest
    | _ => cs
  specialNumbers.contains (String.ofList cs) || isDecimal bare

/-- Whether a text on one line would be read as something else than a text, or could be taken for
a number. -/
def isAmbiguous (s : String) : Bool :=
  let cs := s.toList
  s == "" || nullWords.contains s || flagWords.contains s || isNatural cs || isNegative cs ||
    hasLeadingZero cs || isDouble cs

/-! ## What may stand where -/

/-- Whether a character can stand in a document as itself. -/
def isPrintable (c : Char) : Bool :=
  let n := c.toNat
  n == 0x0A || (0x20 ≤ n && n ≤ 0x7E) ||
    (0xA0 ≤ n && n != 0xFEFF && n != 0xFFFE && n != 0xFFFF)

def isBreak (c : Char) : Bool :=
  let n := c.toNat
  n == 0x0A || n == 0x0D || n == 0x85 || n == 0x2028 || n == 0x2029

def isGap (c : Char) : Bool := c == ' ' || c == '\t' || isBreak c

/-- Whether what follows is a gap or the end. -/
def startsGap : List Char → Bool
  | [] => true
  | c :: _ => isGap c

/-- The characters that are markup at the front of a scalar. -/
def openers : List Char :=
  ['#', ',', '[', ']', '\x7b', '\x7d', '&', '*', '!', '|', '>', '\'', '"', '%', '@', '\x60']

/-- Whether the front of a text is markup. -/
def frontIsMarkup (cs : List Char) : Bool :=
  (after? "---" cs).isSome || (after? "..." cs).isSome ||
    (match cs with
      | [] => false
      | c :: rest =>
          openers.contains c || ((c == '?' || c == ':' || c == '-') && startsGap rest))

/-- Whether there is markup after a character: a colon before a gap, or a number sign after
one. -/
def restHasMarkup : Char → List Char → Bool
  | _, [] => false
  | before, c :: rest =>
      (c == ':' && startsGap rest) || (c == '#' && isGap before) || restHasMarkup c rest

/-- Whether there is markup in a text. -/
def hasMarkup (cs : List Char) : Bool :=
  frontIsMarkup cs ||
    (match cs with
      | [] => false
      | c :: rest => restHasMarkup c rest)

/-- Whether two characters of two kinds stand side by side. -/
def hasPair (first second : Char → Bool) : List Char → Bool
  | a :: b :: rest => (first a && second b) || hasPair first second (b :: rest)
  | _ => false

/-- What the characters of a text allow. -/
structure Room where
  plain : Bool
  single : Bool
  literal : Bool
  deriving DecidableEq, Repr, Inhabited

/-- What the characters of a text allow. Plain text has no markup, no line ends and no gaps around
it; quotes cannot hold blanks after a line end; blocks cannot end in a blank; and all three need
printable characters only and no blank before a line end. -/
def roomOf (cs : List Char) : Room :=
  let isBlank := fun (c : Char) => c == ' '
  let isEdge := fun (c : Option Char) => match c with
    | some c => isBlank c || isBreak c
    | none => false
  let special := hasPair isBlank isBreak cs || cs.any (!isPrintable ·)
  let afterBreak := hasPair isBreak isBlank cs
  { plain := !special && !afterBreak && !isEdge cs.head? && !isEdge cs.getLast? &&
      !cs.any isBreak && !hasMarkup cs
    single := !special && !afterBreak
    literal := !special && cs.getLast? != some ' ' }

/-- The style of a text; `inKey` for one that is a key on the line of its value. -/
def styleOf (inKey : Bool) (s : String) : Style :=
  let cs := s.toList
  let room := roomOf cs
  if inKey && cs.any isBreak then .double
  else if cs.contains '\n' then
    if room.literal && !inKey then .literal else .double
  else if !isAmbiguous s && room.plain then .plain
  else if room.single then .single
  else .double

end NetConsole.Yaml
