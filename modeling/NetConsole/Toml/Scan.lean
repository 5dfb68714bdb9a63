import NetConsole.Config.Setting
import NetConsole.Decimal.Digits
import NetConsole.Decimal.Word

/-!
# Strings, numbers and dates in TOML

The parts of a TOML document that have no parts of their own.
-/

set_option autoImplicit false

namespace NetConsole.Toml

open Config Decimal

/-! ## Characters -/

def isBlank (c : Char) : Bool := c == ' ' || c == '\t'

/-- Whether a character may stand in a comment: no controls other than the tab. -/
def isPlain (c : Char) : Bool := c == '\t' || (0x20 ≤ c.toNat && c.toNat != 0x7F)

def isBare (c : Char) : Bool := c.isAlphanum || c == '-' || c == '_'

def skipBlanks (cs : List Char) : List Char := cs.dropWhile isBlank

/-- What follows the end of a line, if there is one at the front. -/
def afterLineEnd? : List Char → Option (List Char)
  | '\n' :: rest => some rest
  | '\r' :: '\n' :: rest => some rest
  | _ => none

/-! ## Strings -/

/-- What is read, and what follows it. -/
abbrev Read (α : Type) := Option (α × List Char)

/-- A character before what is read. -/
def before (c : Char) : Read (List Char) → Read (List Char)
  | none => none
  | some (cs, rest) => some (c :: cs, rest)

/-- The character with a number given in hexadecimal digits. -/
def charOfHex? (digits : List Char) : Option Char :=
  match numberIn? 16 digits with
  | some n => if n < 0xD800 ∨ (0xDFFF < n ∧ n < 0x110000) then some (Char.ofNat n) else none
  | none => none

/-- The character that a letter after a backslash stands for. -/
def escaped? (letter : Char) : Option Char :=
  if letter = 'b' then some '\x08'
  else if letter = 't' then some '\t'
  else if letter = 'n' then some '\n'
  else if letter = 'f' then some '\x0c'
  else if letter = 'r' then some '\r'
  else if letter = '"' then some '"'
  else if letter = '\\' then some '\\'
  else none

/-- A string between double quotes, from after the first of them. -/
def basicString : List Char → Read (List Char)
  | [] => none
  | '"' :: rest => some ([], rest)
  | '\\' :: 'u' :: a :: b :: c :: d :: rest =>
      match charOfHex? [a, b, c, d] with
      | some char => before char (basicString rest)
      | none => none
  | '\\' :: 'U' :: a :: b :: c :: d :: e :: f :: g :: h :: rest =>
      match charOfHex? [a, b, c, d, e, f, g, h] with
      | some char => before char (basicString rest)
      | none => none
  | '\\' :: letter :: rest =>
      match escaped? letter with
      | some char => before char (basicString rest)
      | none => none
  | c :: rest => if isPlain c && c != '\\' then before c (basicString rest) else none

/-- A string between single quotes, from after the first of them. -/
def literalString : List Char → Read (List Char)
  | [] => none
  | '\'' :: rest => some ([], rest)
  | c :: rest => if isPlain c then before c (literalString rest) else none

/-- The end of a string of several lines after three quotes: up to two more belong to it. -/
def closing (quote : Char) : List Char → List Char × List Char
  | a :: b :: rest =>
      if a = quote ∧ b = quote then ([a, b], rest)
      else if a = quote then ([a], b :: rest)
      else ([], a :: b :: rest)
  | [a] => if a = quote then ([a], []) else ([], [a])
  | [] => ([], [])

/-- Whether the rest of a line is blank, and there is a next one. -/
def endsLine (cs : List Char) : Bool := (afterLineEnd? (skipBlanks cs)).isSome

/-- A string of several lines between triple double quotes, from after the first of them. A
backslash at the end of a line takes away the blanks and line ends that follow; `trimming` is set
among them. -/
def basicLines : Bool → List Char → Read (List Char)
  | _, [] => none
  | trimming, '\r' :: '\n' :: rest =>
      if trimming then basicLines true rest else before '\n' (basicLines false rest)
  | trimming, '\n' :: rest =>
      if trimming then basicLines true rest else before '\n' (basicLines false rest)
  | _, '"' :: '"' :: '"' :: rest => some (closing '"' rest)
  | _, '\\' :: 'u' :: a :: b :: c :: d :: rest =>
      match charOfHex? [a, b, c, d] with
      | some char => before char (basicLines false rest)
      | none => none
  | _, '\\' :: 'U' :: a :: b :: c :: d :: e :: f :: g :: h :: rest =>
      match charOfHex? [a, b, c, d, e, f, g, h] with
      | some char => before char (basicLines false rest)
      | none => none
  | _, '\\' :: letter :: rest =>
      match escaped? letter with
      | some char => before char (basicLines false rest)
      | none => if endsLine (letter :: rest) then basicLines true (letter :: rest) else none
  | trimming, c :: rest =>
      if trimming && isBlank c then basicLines true rest
      else if isPlain c && c != '\\' then before c (basicLines false rest)
      else none

/-- A string of several lines between triple single quotes, from after the first of them. -/
def literalLines : List Char → Read (List Char)
  | [] => none
  | '\r' :: '\n' :: rest => before '\n' (literalLines rest)
  | '\n' :: rest => before '\n' (literalLines rest)
  | '\'' :: '\'' :: '\'' :: rest => some (closing '\'' rest)
  | c :: rest => if isPlain c then before c (literalLines rest) else none

/-- Characters without the end of a line at their front, if there is one. -/
def withoutFirstLineEnd (cs : List Char) : List Char := (afterLineEnd? cs).getD cs

/-- A string in any of its four forms; nothing if there is no quote at the front. -/
def string : List Char → Read (List Char)
  | '"' :: '"' :: '"' :: rest => basicLines false (withoutFirstLineEnd rest)
  | '\'' :: '\'' :: '\'' :: rest => literalLines (withoutFirstLineEnd rest)
  | '"' :: rest => basicString rest
  | '\'' :: rest => literalString rest
  | _ => none

/-! ## Numbers -/

def isDigit (c : Char) : Bool := '0' ≤ c && c ≤ '9'

/-- Digits without the low lines between them; each of these must stand between two digits. -/
def ungrouped (isDigit : Char → Bool) : List Char → Option (List Char)
  | [] => none
  | [c] => if isDigit c then some [c] else none
  | c :: '_' :: rest => if isDigit c then (ungrouped isDigit rest).map (c :: ·) else none
  | c :: rest => if isDigit c then (ungrouped isDigit rest).map (c :: ·) else none

/-- A sign at the front: whether it is a minus, and what follows. -/
def signed : List Char → Bool × List Char
  | '-' :: rest => (true, rest)
  | '+' :: rest => (false, rest)
  | cs => (false, cs)

/-- The digits of a decimal number that has no zeros before it. -/
def wholeDigits? (cs : List Char) : Option (List Char) :=
  match ungrouped isDigit cs with
  | some ('0' :: _ :: _) => none
  | other => other

/-- A 64-bit signed integer. -/
def inRange? (i : Int) : Option Int :=
  if -(Decimal.half64 : Int) ≤ i ∧ i < Decimal.half64 then some i else none

/-- The marks of bases other than ten. -/
def marks : List (List Char × Nat) := [(['0', 'x'], 16), (['0', 'o'], 8), (['0', 'b'], 2)]

/-- An integer in another base, after its mark. -/
def markedInteger? (cs : List Char) : Option Int := do
  let (mark, base) ← marks.find? fun (mark, _) => mark.isPrefixOf cs
  let digits ← ungrouped (fun c => (digitIn? base c).isSome) (cs.drop mark.length)
  let n ← numberIn? base digits
  inRange? n

/-- An integer in base ten. -/
def decimalInteger? (cs : List Char) : Option Int := do
  let (negative, digits) := signed cs
  let n ← numberIn? 10 (← wholeDigits? digits)
  inRange? (if negative then -(n : Int) else n)

/-- The exponent of a decimal, if what follows its digits is one. -/
def groupedExponent? : List Char → Option Int
  | [] => some 0
  | e :: rest => do
      if e ≠ 'e' ∧ e ≠ 'E' then none
      let (negative, digits) := signed rest
      let n ← numberIn? 10 (← ungrouped isDigit digits)
      some (if negative then -(n : Int) else n)

/-- Whether characters are a decimal: with a fraction, an exponent or both, and not too large
unless it is negative. -/
def isDecimal (cs : List Char) : Bool :=
  let (negative, bare) := signed cs
  let isPart := fun (c : Char) => isDigit c || c == '_'
  let whole := bare.takeWhile isPart
  let rest := bare.dropWhile isPart
  let (hasFraction, fraction, rest) := match rest with
    | '.' :: more => (true, more.takeWhile isPart, more.dropWhile isPart)
    | _ => (false, [], rest)
  let digits := do
    let whole ← wholeDigits? whole
    if hasFraction then
      let fraction ← ungrouped isDigit fraction
      some (whole ++ fraction, fraction.length)
    else some (whole, 0)
  match digits, groupedExponent? rest with
  | some (digits, places), some exponent =>
      (hasFraction || !rest.isEmpty) &&
        (negative || isFinite ((numberIn? 10 digits).getD 0) (exponent - places))
  | _, _ => false

/-- Whether characters are one of the words for numbers without a decimal form. -/
def isSpecialNumber (cs : List Char) : Bool :=
  let bare := (signed cs).2
  bare == ['i', 'n', 'f'] || bare == ['n', 'a', 'n']

/-! ## Dates -/

/-- A number of exactly so many digits, and what follows it. -/
def digits? (count : Nat) (cs : List Char) : Read Nat :=
  let digits := cs.take count
  if digits.length = count ∧ digits.all isDigit then
    (numberIn? 10 digits).map fun n => (n, cs.drop count)
  else none

/-- What follows a character at the front. -/
def after? (c : Char) : List Char → Option (List Char)
  | d :: rest => if d = c then some rest else none
  | [] => none

/-- The number of days of a month. -/
def monthDays (year month : Nat) : Nat :=
  if month = 2 then
    if year % 4 = 0 ∧ (year % 100 ≠ 0 ∨ year % 400 = 0) then 29 else 28
  else if month = 4 ∨ month = 6 ∨ month = 9 ∨ month = 11 then 30
  else 31

/-- What follows a date. -/
def afterDate? (cs : List Char) : Option (List Char) := do
  let (year, rest) ← digits? 4 cs
  let (month, rest) ← digits? 2 (← after? '-' rest)
  let (day, rest) ← digits? 2 (← after? '-' rest)
  if 1 ≤ month ∧ month ≤ 12 ∧ 1 ≤ day ∧ day ≤ monthDays year month then some rest else none

/-- What follows a time of day. -/
def afterTime? (cs : List Char) : Option (List Char) := do
  let (hour, rest) ← digits? 2 cs
  let (minute, rest) ← digits? 2 (← after? ':' rest)
  let (second, rest) ← digits? 2 (← after? ':' rest)
  if 23 < hour ∨ 59 < minute ∨ 60 < second then none
  match rest with
  | '.' :: more =>
      if (more.takeWhile isDigit).isEmpty then none else some (more.dropWhile isDigit)
  | _ => some rest

/-- What follows the offset of a time; there need not be one. -/
def afterOffset? : List Char → Option (List Char)
  | 'Z' :: rest => some rest
  | 'z' :: rest => some rest
  | '+' :: rest => hours rest
  | '-' :: rest => hours rest
  | cs => some cs
where
  /-- What follows hours and minutes. -/
  hours (cs : List Char) : Option (List Char) := do
    let (hour, rest) ← digits? 2 cs
    let (minute, rest) ← digits? 2 (← after? ':' rest)
    if 23 < hour ∨ 59 < minute then none else some rest

/-- Whether characters are a time with or without an offset. -/
def isOffsetTime (cs : List Char) : Bool :=
  ((afterTime? cs).bind afterOffset?) == some []

/-- Whether characters are a date, a time, or both with a letter between them. -/
def isDateOrTime (cs : List Char) : Bool :=
  match afterDate? cs with
  | some [] => true
  | some (t :: rest) => (t == 'T' || t == 't') && isOffsetTime rest
  | none => afterTime? cs == some []

/-- The key under which the text of a date is kept. -/
def dateKey : String := "$__toml_private_datetime"

/-- A date as a setting. -/
def dateSetting (cs : List Char) : Setting := .table [(dateKey, .text (String.ofList cs))]

/-! ## Words -/

/-- Whether a character ends a word. -/
def endsWord (c : Char) : Bool :=
  isBlank c || c == '\n' || c == '\r' || c == '#' || c == ',' || c == ']' || c == '\x7d'

/-- The setting that a word stands for. -/
def settingOfWord? (word : List Char) : Option Setting :=
  if word = "true".toList then some (.flag true)
  else if word = "false".toList then some (.flag false)
  else if isSpecialNumber word then some .fraction
  else if isDateOrTime word then some (dateSetting word)
  else
    match (markedInteger? word).or (decimalInteger? word) with
    | some i => some (.integer i)
    | none => if isDecimal word then some .fraction else none

/-- A setting that is a word, or a date and a time with a blank between them. -/
def wordSetting (cs : List Char) : Option (Setting × List Char) := do
  let word := cs.takeWhile (!endsWord ·)
  let rest := cs.dropWhile (!endsWord ·)
  let setting ← settingOfWord? word
  match rest with
  | ' ' :: more =>
      let time := more.takeWhile (!endsWord ·)
      if afterDate? word = some [] ∧ isOffsetTime time then
        some (dateSetting (word ++ ' ' :: time), more.dropWhile (!endsWord ·))
      else some (setting, rest)
  | _ => some (setting, rest)

end NetConsole.Toml
