import NetConsole.Client.Error
import NetConsole.Files.Basic
import NetConsole.Text.Blank

/-!
# How connections are made

Which certificates are trusted and how long an answer may take. A file of further certificates is
read before anything is sent.
-/

set_option autoImplicit false

namespace NetConsole

/-- Which certificates are trusted. -/
inductive Trust where
  /-- those that the system trusts -/
  | system
  /-- those as well that the file at a path holds -/
  | authority (path : String)
  /-- any at all -/
  | anyone
  deriving DecidableEq, Repr, Inhabited

/-- The trusted certificates, and the number of seconds that an answer may take. -/
structure Transport where
  trust : Trust
  seconds : Nat
  deriving DecidableEq, Repr, Inhabited

namespace Transport

def certificateBegin : String := "-----BEGIN CERTIFICATE-----"

def certificateEnd : String := "-----END CERTIFICATE-----"

def lines : List Char → List (List Char)
  | [] => [[]]
  | '\n' :: rest => [] :: lines rest
  | c :: rest =>
      match lines rest with
      | [] => [[c]]
      | line :: more => (c :: line) :: more

def base64Digit? (c : Char) : Option Nat :=
  if 'A' ≤ c ∧ c ≤ 'Z' then some (c.toNat - 'A'.toNat)
  else if 'a' ≤ c ∧ c ≤ 'z' then some (c.toNat - 'a'.toNat + 26)
  else if '0' ≤ c ∧ c ≤ '9' then some (c.toNat - '0'.toNat + 52)
  else if c = '+' then some 62
  else if c = '/' then some 63
  else none

/-- The bytes of groups of four digits; the last group may end in equals signs. -/
def base64Bytes : List Char → Option (List Nat)
  | [] => some []
  | [a, b, '=', '='] => do
      let n := (← base64Digit? a) * 64 + (← base64Digit? b)
      if n % 16 = 0 then some [n / 16] else none
  | [a, b, c, '='] => do
      let n := ((← base64Digit? a) * 64 + (← base64Digit? b)) * 64 + (← base64Digit? c)
      if n % 4 = 0 then some [n / 1024, n / 4 % 256] else none
  | a :: b :: c :: d :: rest => do
      let n := (((← base64Digit? a) * 64 + (← base64Digit? b)) * 64 + (← base64Digit? c)) * 64 +
        (← base64Digit? d)
      let more ← base64Bytes rest
      some (n / 65536 :: n / 256 % 256 :: n % 256 :: more)
  | _ => none

/-- The number that bytes are, the most significant one first. -/
def bigEndian (bytes : List Nat) : Nat := bytes.foldl (fun n b => n * 256 + b) 0

/-- Whether bytes are one sequence that they fill exactly, as a certificate does. -/
def isSequence : List Nat → Bool
  | 0x30 :: length :: rest =>
      if length < 0x80 then rest.length == length
      else
        let count := length - 0x80
        0 < count && count ≤ 4 && (rest.drop count).length == bigEndian (rest.take count)
  | _ => false

/-- Whether all certificates in lines are whole; `inside` holds the digits read of one that has
begun. Lines outside certificates do not matter. -/
def areWhole : Option (List Char) → List (List Char) → Bool
  | none, [] => true
  | some _, [] => false
  | none, line :: rest =>
      areWhole (if Text.trimChars line = certificateBegin.toList then some [] else none) rest
  | some digits, line :: rest =>
      let content := Text.trimChars line
      if content = certificateEnd.toList then
        (match base64Bytes digits with
          | some bytes => isSequence bytes
          | none => false) && areWhole none rest
      else areWhole (some (digits ++ content)) rest

def check (transport : Transport) (files : Files) : Except ClientError Unit :=
  match transport.trust with
  | .system | .anyone => .ok ()
  | .authority path =>
      match files.read? (Path.ofText path) with
      | none => .error (.tls "failed to read CA cert")
      | some text =>
          if areWhole none (lines text.toList) then .ok ()
          else .error (.tls "failed to build HTTP client")

end Transport

end NetConsole
