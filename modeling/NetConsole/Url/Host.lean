import NetConsole.Url.Basic
import NetConsole.Url.Domain
import NetConsole.Url.Error

/-!
# Reading hosts

A host in brackets is an IPv6 address; one whose last label is a number is an IPv4 address, in
any of the forms that write it with fewer parts or in other bases; all else is a domain name.
-/

set_option autoImplicit false

namespace NetConsole.Url

/-- The value of a digit in bases up to sixteen. -/
def digitValue? (c : Char) : Option Nat :=
  if c.toNat < 128 then hexByte? (UInt8.ofNat c.toNat) else none

def numberIn (base : Nat) (cs : List Char) : Option Nat :=
  if cs = [] then none
  else cs.foldlM (fun n c => do
    let d ← digitValue? c
    if d < base then some (n * base + d) else none) 0

/-! ## IPv4 -/

/-- A part of an address: hexadecimal after `0x`, octal after another leading zero. -/
def ipv4Number (cs : List Char) : Option Nat :=
  match cs with
  | [] => none
  | '0' :: 'x' :: digits => if digits = [] then some 0 else numberIn 16 digits
  | '0' :: 'X' :: digits => if digits = [] then some 0 else numberIn 16 digits
  | '0' :: c :: digits => numberIn 8 (c :: digits)
  | digits => numberIn 10 digits

/-- The parts of a name, a single empty one at the end left out. -/
def partsOfName (cs : List Char) : List (List Char) :=
  let parts := cs.splitOn '.'
  if parts.getLast? = some [] then parts.dropLast else parts

/-- Whether the last part of a name is a number, so that it must be an address. -/
def endsInNumber (cs : List Char) : Bool :=
  match (partsOfName cs).getLast? with
  | none => false
  | some last => (!last.isEmpty && last.all fun c => '0' ≤ c && c ≤ '9') || (ipv4Number last).isSome

/-- An address from its parts: the last one fills all the bytes that the others leave. -/
def ipv4Address (cs : List Char) : Except Error Nat :=
  let parts := partsOfName cs
  match parts.mapM ipv4Number with
  | none => .error .invalidIpv4
  | some numbers =>
      match numbers.reverse with
      | [] => .error .invalidIpv4
      | last :: before =>
          let front := before.reverse
          if 4 < numbers.length ∨ Nat.pow 256 (4 - front.length) ≤ last ∨ front.any (255 < ·) then
            .error .invalidIpv4
          else
            .ok (front.zipIdx.foldl (fun address (n, i) => address + n * Nat.pow 256 (3 - i)) last)

/-! ## IPv6 -/

/-- The four decimal parts of an address that stand in place of the last two pieces. -/
def embeddedIpv4 (cs : List Char) : Option (List Nat) := do
  let parts := cs.splitOn '.'
  if parts.length ≠ 4 then none
  else
    let numbers ← parts.mapM fun part => do
      let n ← (if part.all (fun c => '0' ≤ c && c ≤ '9') then numberIn 10 part else none)
      if 255 < n ∨ (part.length ≠ 1 ∧ part.head? = some '0') then none else some n
    match numbers with
    | [a, b, c, d] => some [a * 256 + b, c * 256 + d]
    | _ => none

/-- The pieces between colons; the last may be an embedded address. -/
def ipv6Pieces : List (List Char) → Option (List Nat)
  | [] => some []
  | [last] =>
      if last.contains '.' then embeddedIpv4 last
      else if last.length ≤ 4 then (numberIn 16 last).map ([·]) else none
  | piece :: rest => do
      let n ← if piece.length ≤ 4 then numberIn 16 piece else none
      let more ← ipv6Pieces rest
      some (n :: more)

/-- The place of the first two colons in a row: what is before and what is after them. -/
def cutAtDoubleColon : List Char → Option (List Char × List Char)
  | ':' :: ':' :: rest => some ([], rest)
  | c :: rest => (cutAtDoubleColon rest).map fun (before, after) => (c :: before, after)
  | [] => none

/-- Pieces written with colons between them; none if nothing is written. -/
def ipv6Group (embeddedAllowed : Bool) (cs : List Char) : Option (List Nat) :=
  if cs = [] then some []
  else if !embeddedAllowed && cs.contains '.' then none
  else ipv6Pieces (cs.splitOn ':')

/-- An address of eight pieces; two colons stand for the zeros that are missing. -/
def ipv6Address (cs : List Char) : Except Error (List Nat) :=
  let pieces := match cutAtDoubleColon cs with
    | none => do
        let all ← ipv6Group true cs
        if all.length = 8 then some all else none
    | some (before, after) => do
        let front ← ipv6Group false before
        let back ← ipv6Group true after
        let count := front.length + back.length
        if count ≤ 7 then some (front ++ List.replicate (8 - count) 0 ++ back) else none
  match pieces with
  | some pieces => .ok pieces
  | none => .error .invalidIpv6

/-! ## Hosts -/

def bracketed (cs : List Char) : Except Error Host :=
  if cs.getLast? = some ']' then (ipv6Address cs.dropLast).map .ipv6 else .error .invalidIpv6

/-- The host of a web address. -/
def specialHost (cs : List Char) : Except Error Host :=
  match cs with
  | '[' :: rest => bracketed rest
  | _ =>
      match Text.exactText? (decodeBytes (Text.utf8 cs)) with
      | none => .error .invalidDomain
      | some decoded =>
          match Domain.toAscii decoded.toList with
          | none => .error .invalidDomain
          | some "" => .error .emptyHost
          | some name =>
              if endsInNumber name.toList then (ipv4Address name.toList).map .ipv4
              else .ok (.domain name)

/-- The characters that no host of another scheme may hold. -/
def isForbiddenInHost (c : Char) : Bool :=
  c.toNat == 0 || "\t\n\r #/:<>?@[\\]^|".toList.contains c

/-- The host of a URL whose scheme gives hosts no meaning. -/
def plainHost (cs : List Char) : Except Error Host :=
  match cs with
  | '[' :: rest => bracketed rest
  | _ =>
      if cs.any isForbiddenInHost then .error .invalidDomainCharacter
      else .ok (.domain (String.ofList (encode isControl cs)))

end NetConsole.Url
