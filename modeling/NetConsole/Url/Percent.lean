import NetConsole.Text.Utf8

/-!
# Percent-encoding

Which characters each part of a URL writes as escaped bytes, the escaping, and its inverse.
-/

set_option autoImplicit false

namespace NetConsole.Url

def upperHex (n : Nat) : Char := (Nat.digitChar (n % 16)).toUpper

def escapeByte (b : UInt8) : List Char :=
  ['%', upperHex (b.toNat / 16), upperHex b.toNat]

/-- Controls and all that is not ASCII; every part escapes these. -/
def isControl (c : Char) : Bool := c.toNat < 0x20 || 0x7F ≤ c.toNat

def inFragmentSet (c : Char) : Bool :=
  isControl c || c == ' ' || c == '"' || c == '<' || c == '>' || c == '`'

def inPathSet (c : Char) : Bool :=
  inFragmentSet c || c == '#' || c == '?' || c == '\x7b' || c == '\x7d'

def inUserSet (c : Char) : Bool :=
  inPathSet c || c == '/' || c == ':' || c == ';' || c == '=' || c == '@' || c == '[' ||
    c == '\\' || c == ']' || c == '^' || c == '|'

def inQuerySet (c : Char) : Bool :=
  isControl c || c == ' ' || c == '"' || c == '#' || c == '<' || c == '>'

/-- What the query of a web address escapes. -/
def inSpecialQuerySet (c : Char) : Bool := inQuerySet c || c == '\''

/-- One character, escaped byte by byte if it is in a set. -/
def encodeChar (escaped : Char → Bool) (c : Char) : List Char :=
  if escaped c then (String.utf8EncodeChar c).flatMap escapeByte else [c]

/-- Characters with those in a set escaped. -/
def encode (escaped : Char → Bool) (cs : List Char) : List Char :=
  cs.flatMap (encodeChar escaped)

/-- The value of a hexadecimal digit of either case. -/
def hexByte? (b : UInt8) : Option Nat :=
  let n := b.toNat
  if 48 ≤ n ∧ n ≤ 57 then some (n - 48)
  else if 97 ≤ n ∧ n ≤ 102 then some (n - 87)
  else if 65 ≤ n ∧ n ≤ 70 then some (n - 55)
  else none

/-- Bytes with every escape replaced by its byte; a percent sign that begins no escape stays. -/
def decodeBytes : List UInt8 → List UInt8
  | [] => []
  | b :: rest =>
      if b = 37 then
        match rest with
        | h :: l :: more =>
            match hexByte? h, hexByte? l with
            | some high, some low => UInt8.ofNat (high * 16 + low) :: decodeBytes more
            | _, _ => b :: decodeBytes (h :: l :: more)
        | short => b :: decodeBytes short
      else b :: decodeBytes rest
  termination_by bs => bs.length

/-- The bytes of a text with every escape replaced by its byte. -/
def decode (s : String) : List UInt8 := decodeBytes (Text.bytes s)

/-! ## Form encoding -/

/-- A byte of a key or value of a query pair: letters, digits and four marks stand for themselves,
a blank is written as a plus sign. -/
def formByte (b : UInt8) : List Char :=
  let n := b.toNat
  if (48 ≤ n && n ≤ 57) || (65 ≤ n && n ≤ 90) || (97 ≤ n && n ≤ 122) || n == 42 || n == 45 ||
      n == 46 || n == 95 then [Char.ofNat n]
  else if n == 32 then ['+']
  else escapeByte b

def formText (s : String) : List Char := (Text.bytes s).flatMap formByte

def formPair (pair : String × String) : List Char := formText pair.1 ++ '=' :: formText pair.2

/-- Query pairs with ampersands between them. -/
def formPairs : List (String × String) → List Char
  | [] => []
  | [pair] => formPair pair
  | pair :: rest => formPair pair ++ '&' :: formPairs rest

end NetConsole.Url
