/-!
# UTF-8

The bytes of a text, and the text of bytes: exactly, or with U+FFFD in place of every part that is
no character.
-/

set_option autoImplicit false

namespace NetConsole.Text

def utf8 (cs : List Char) : List UInt8 := cs.flatMap String.utf8EncodeChar

def bytes (s : String) : List UInt8 := utf8 s.toList

/-- The first byte of a character: the number of bytes that follow it, its own bits, and the least
and greatest value that the next byte may have. -/
def leadByte (b : Nat) : Option (Nat × Nat × Nat × Nat) :=
  if b < 0x80 then some (0, b, 0, 0)
  else if 0xC2 ≤ b ∧ b ≤ 0xDF then some (1, b - 0xC0, 0x80, 0xBF)
  else if b = 0xE0 then some (2, 0, 0xA0, 0xBF)
  else if b = 0xED then some (2, 0xD, 0x80, 0x9F)
  else if 0xE1 ≤ b ∧ b ≤ 0xEF then some (2, b - 0xE0, 0x80, 0xBF)
  else if b = 0xF0 then some (3, 0, 0x90, 0xBF)
  else if 0xF1 ≤ b ∧ b ≤ 0xF3 then some (3, b - 0xF0, 0x80, 0xBF)
  else if b = 0xF4 then some (3, 4, 0x80, 0x8F)
  else none

/-- The bytes that continue a character: the code point once `count` of them were read, and the
number of bytes that belong to the character or to its broken beginning. -/
def continuation : Nat → Nat → Nat → Nat → Nat → List UInt8 → Option Nat × Nat
  | 0, code, _, _, used, _ => (some code, used)
  | _ + 1, _, _, _, used, [] => (none, used)
  | count + 1, code, low, high, used, b :: rest =>
      if low ≤ b.toNat ∧ b.toNat ≤ high then
        continuation count (code * 64 + (b.toNat - 0x80)) 0x80 0xBF (used + 1) rest
      else (none, used)

/-- The character at the front of bytes, if there is one, and the number of bytes that it or its
broken beginning takes. -/
def decodeFront (b : UInt8) (rest : List UInt8) : Option Char × Nat :=
  match leadByte b.toNat with
  | none => (none, 1)
  | some (count, bits, low, high) =>
      match continuation count bits low high 1 rest with
      | (some code, used) => (some (Char.ofNat code), used)
      | (none, used) => (none, used)

/-- The characters of bytes, nothing for each part that is no character. The fuel is the number of
bytes. -/
def decodeParts : Nat → List UInt8 → List (Option Char)
  | 0, _ => []
  | _, [] => []
  | fuel + 1, b :: rest =>
      let (c, used) := decodeFront b rest
      c :: decodeParts fuel (rest.drop (used - 1))

/-- The text of bytes, with U+FFFD for each part that is no character. -/
def lossyText (bs : List UInt8) : String :=
  String.ofList ((decodeParts bs.length bs).map fun c => c.getD (Char.ofNat 0xFFFD))

/-- The text of bytes, if all of them belong to characters. -/
def exactText? (bs : List UInt8) : Option String :=
  ((decodeParts bs.length bs).mapM id).map String.ofList

end NetConsole.Text
