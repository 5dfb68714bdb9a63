import NetConsole.Decimal.Word
import NetConsole.Json.Reason

/-!
# Scanning strings and numbers of a JSON text

A value may be read or only passed over. Passing over a string does not look at surrogate pairs,
and passing over a number does not compute it, so the two may stop for different causes or at
different places.
-/

set_option autoImplicit false

namespace NetConsole.Json

open Decimal

/-- What reading and what passing over one string or number come to. -/
structure Scan (α : Type) where
  read : Except Reason α
  skip : Option Reason

/-! ## Strings -/

/-- The value of a hexadecimal digit of either case. -/
def hexValue? (c : Char) : Option Nat :=
  if '0' ≤ c ∧ c ≤ '9' then some (c.toNat - 48)
  else if 'a' ≤ c ∧ c ≤ 'f' then some (c.toNat - 87)
  else if 'A' ≤ c ∧ c ≤ 'F' then some (c.toNat - 55)
  else none

def utf8Length (cs : List Char) : Nat := cs.foldr (fun c n => c.utf8Size + n) 0

/-- The unit that the four hexadecimal digits at the front stand for. Fewer than four bytes up to
the end are the end of the string, anything else that is not four digits is no escape. -/
def hexUnit : List Char → Except Reason (Nat × List Char)
  | a :: b :: c :: d :: rest =>
      match hexValue? a, hexValue? b, hexValue? c, hexValue? d with
      | some a, some b, some c, some d => .ok (((a * 16 + b) * 16 + c) * 16 + d, rest)
      | _, _, _, _ => .error .invalidEscape
  | short => .error (if utf8Length short < 4 then .endOfString else .invalidEscape)

/-- The character behind a one-letter escape. -/
def simpleEscape? (c : Char) : Option Char :=
  if c = '"' ∨ c = '\\' ∨ c = '/' then some c
  else if c = 'b' then some (Char.ofNat 8)
  else if c = 'f' then some (Char.ofNat 12)
  else if c = 'n' then some '\n'
  else if c = 'r' then some '\r'
  else if c = 't' then some '\t'
  else none

def isHighSurrogate (unit : Nat) : Bool := 0xD800 ≤ unit && unit ≤ 0xDBFF

def isLowSurrogate (unit : Nat) : Bool := 0xDC00 ≤ unit && unit ≤ 0xDFFF

/-- The character after a `\u`, read from its four digits and, for the first half of a surrogate
pair, from a second escape. -/
def unicodeEscape (cs : List Char) : Except Reason (Char × List Char) := do
  let (unit, rest) ← hexUnit cs
  if isLowSurrogate unit then throw .loneSurrogate
  if !isHighSurrogate unit then return (Char.ofNat unit, rest)
  match rest with
  | [] => throw .endOfString
  | '\\' :: [] => throw .endOfString
  | '\\' :: 'u' :: more =>
      let (low, rest) ← hexUnit more
      if isLowSurrogate low then
        return (Char.ofNat ((unit - 0xD800) * 0x400 + (low - 0xDC00) + 0x10000), rest)
      else throw .loneSurrogate
  | _ => throw .endOfHexEscape

/-- The characters of a string up to its closing quote, and the text after the quote. The fuel
is one more than the length of the text. -/
def readString : Nat → List Char → Except Reason (List Char × List Char)
  | 0, _ => .error .endOfString
  | _, [] => .error .endOfString
  | fuel + 1, c :: rest =>
      if c = '"' then .ok ([], rest)
      else if c = '\\' then
        match rest with
        | [] => .error .endOfString
        | 'u' :: digits => do
            let (escaped, rest) ← unicodeEscape digits
            let (more, rest) ← readString fuel rest
            return (escaped :: more, rest)
        | letter :: rest =>
            match simpleEscape? letter with
            | none => .error .invalidEscape
            | some escaped => do
                let (more, rest) ← readString fuel rest
                return (escaped :: more, rest)
      else if c.toNat < 0x20 then .error .controlInString
      else do
        let (more, rest) ← readString fuel rest
        return (c :: more, rest)

/-- The text after the closing quote of a string that is passed over: escapes are checked for
their form alone. The fuel is one more than the length of the text. -/
def skipString : Nat → List Char → Except Reason (List Char)
  | 0, _ => .error .endOfString
  | _, [] => .error .endOfString
  | fuel + 1, c :: rest =>
      if c = '"' then .ok rest
      else if c = '\\' then
        match rest with
        | [] => .error .endOfString
        | 'u' :: digits => do
            let (_, rest) ← hexUnit digits
            skipString fuel rest
        | letter :: rest =>
            match simpleEscape? letter with
            | none => .error .invalidEscape
            | some _ => skipString fuel rest
      else if c.toNat < 0x20 then .error .controlInString
      else skipString fuel rest

/-- A string after its opening quote, and the text after it if a reader that passes over it gets
to its end. -/
def scanString (cs : List Char) : Scan String × Option (List Char) :=
  let read := (readString (cs.length + 1) cs).map fun (chars, _) => String.ofList chars
  match skipString (cs.length + 1) cs with
  | .ok rest => ({ read, skip := none }, some rest)
  | .error reason => ({ read, skip := some reason }, none)

/-! ## Numbers -/

/-- A number as it is written, by its digits. -/
structure Numeral where
  negative : Bool
  whole : List Char
  fraction : Option (List Char)
  exponent : Option (Bool × List Char)
  deriving DecidableEq, Repr, Inhabited

def isDigit (c : Char) : Bool := '0' ≤ c && c ≤ '9'

/-- The digits at the front of a text and what follows them. -/
def spanDigits (cs : List Char) : List Char × List Char := cs.span isDigit

/-- The cause for which a number breaks off: a reader tells the end of the text from another
character, one that passes over it does not. -/
def numberBreak : List Char → Reason
  | [] => .endOfValue
  | _ => .invalidNumber

/-- The exponent of a number after its letter. -/
def lexExponent (cs : List Char) : Except Reason ((Bool × List Char) × List Char) :=
  let (negative, digitsOn) := match cs with
    | '+' :: rest => (false, rest)
    | '-' :: rest => (true, rest)
    | other => (false, other)
  match spanDigits digitsOn with
  | ([], rest) => .error (numberBreak rest)
  | (digits, rest) => .ok ((negative, digits), rest)

/-- What follows the integer part of a number: a fraction, an exponent, both or none. -/
def lexTail (negative : Bool) (whole cs : List Char) : Except Reason (Numeral × List Char) := do
  let (fraction, rest) ← match cs with
    | '.' :: more =>
        match spanDigits more with
        | ([], rest) => .error (numberBreak rest)
        | (digits, rest) => pure (some digits, rest)
    | other => pure (none, other)
  let (exponent, rest) ← match rest with
    | c :: more =>
        if c = 'e' ∨ c = 'E' then do
          let (exponent, rest) ← lexExponent more
          pure (some exponent, rest)
        else pure (none, c :: more)
    | [] => pure (none, [])
  return (⟨negative, whole, fraction, exponent⟩, rest)

/-- A number at the front of a text. No digit may follow a leading zero. -/
def lexNumber (cs : List Char) : Except Reason (Numeral × List Char) :=
  let (negative, unsigned) := match cs with
    | '-' :: rest => (true, rest)
    | other => (false, other)
  match unsigned with
  | [] => .error .endOfValue
  | '0' :: rest =>
      match rest with
      | c :: _ => if isDigit c then .error .invalidNumber else lexTail negative ['0'] rest
      | [] => lexTail negative ['0'] []
  | c :: rest =>
      if isDigit c then
        let (digits, after) := spanDigits (c :: rest)
        lexTail negative digits after
      else .error .invalidNumber

/-- The largest integer that a 64-bit word holds. -/
def maxWord : Nat := words64 - 1

def digitValue (c : Char) : Nat := c.toNat - 48

/-- The word that digits add up to from a start, and the digits from the first one on that no
longer fits. -/
def gather : Nat → List Char → Nat × List Char
  | word, [] => (word, [])
  | word, c :: rest =>
      let next := word * 10 + digitValue c
      if maxWord < next then (word, c :: rest) else gather next rest

/-- `10 ^ n` rounded to a double. -/
def powerOfTen (n : Nat) : Option Binary64 := Binary64.ofNat (Nat.pow 10 n)

/-- A word times a power of ten, by one rounded multiplication or division; a power beyond 308 is
taken off in steps of 308. -/
def timesPower : Nat → Binary64 → Int → Except Reason Binary64
  | 0, x, _ => .ok x
  | fuel + 1, x, exponent =>
      if exponent.natAbs ≤ 308 then
        let result := (powerOfTen exponent.natAbs).bind fun power =>
          if 0 ≤ exponent then x.mul power else x.div power
        match result with
        | some product => .ok product
        | none => .error .numberOutOfRange
      else if x.isZero then .ok x
      else if 0 ≤ exponent then .error .numberOutOfRange
      else
        match (powerOfTen 308).bind x.div with
        | some smaller => timesPower fuel smaller (exponent + 308)
        | none => .error .numberOutOfRange

/-- The value of digits as a natural number. -/
def digitsValue (cs : List Char) : Nat := cs.foldl (fun n c => n * 10 + digitValue c) 0

/-- The largest exponent that is taken as it is written. -/
def maxExponent : Nat := half32 - 1

/-- A fraction or a number too large for a word: at most a word's worth of leading digits counts,
and the product with the power of ten is rounded once more. -/
def Numeral.double (n : Numeral) : Except Reason Binary64 := do
  let (whole, wholeRest) := gather 0 n.whole
  let (word, taken) := match n.fraction with
    | none => (whole, 0)
    | some digits =>
        let (word, rest) := gather whole digits
        (word, digits.length - rest.length)
  let start : Int := (wholeRest.length : Int) - (taken : Int)
  let magnitude ← match n.exponent with
    | none => scaled word start
    | some (negative, digits) =>
        let written := digitsValue digits
        if maxExponent < written then
          if word ≠ 0 ∧ !negative then throw .numberOutOfRange else pure (Binary64.zero false)
        else scaled word (if negative then start - written else start + written)
  return magnitude.withSign n.negative
where
  scaled (word : Nat) (exponent : Int) : Except Reason Binary64 :=
    match Binary64.ofNat word with
    | some x => timesPower 5 x exponent
    | none => .error .numberOutOfRange

/-- The number that is written. Integers from `-2 ^ 63` up to below `2 ^ 64` stay integers, minus
zero apart; all else is a double. -/
def Numeral.value (n : Numeral) : Except Reason Number :=
  let integer := digitsValue n.whole
  if n.fraction.isNone ∧ n.exponent.isNone ∧ integer ≤ maxWord ∧
      (!n.negative ∨ (integer ≠ 0 ∧ integer ≤ half64)) then
    .ok (.integer (if n.negative then -(integer : Int) else integer))
  else n.double.map .fraction

/-- A number at the front of a text, and the text after it if its form is right. -/
def scanNumber (cs : List Char) : Scan Number × Option (List Char) :=
  match lexNumber cs with
  | .ok (numeral, rest) => ({ read := numeral.value, skip := none }, some rest)
  | .error reason => ({ read := .error reason, skip := some .invalidNumber }, none)

end NetConsole.Json
