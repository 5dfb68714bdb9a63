/-!
# Digits

Numbers from digits in some base, and whether a decimal is small enough to be a double.
-/

set_option autoImplicit false

namespace NetConsole.Decimal

/-- The value of a digit in a base. -/
def digitIn? (base : Nat) (c : Char) : Option Nat :=
  let value :=
    if '0' ≤ c ∧ c ≤ '9' then c.toNat - '0'.toNat
    else if 'a' ≤ c ∧ c ≤ 'z' then c.toNat - 'a'.toNat + 10
    else if 'A' ≤ c ∧ c ≤ 'Z' then c.toNat - 'A'.toNat + 10
    else base
  if value < base then some value else none

/-- The number that digits in a base are; there must be one at least. -/
def numberIn? (base : Nat) (cs : List Char) : Option Nat :=
  if cs = [] then none
  else cs.foldlM (fun n c => (digitIn? base c).map (n * base + ·)) 0

/-- Whether a decimal, its digits as one number times a power of ten, is small enough for a
double: below the middle between the largest double and the next power of two. -/
def isFinite (digits : Nat) (exponent : Int) : Bool :=
  let limit := Nat.pow 2 1024 - Nat.pow 2 970
  if digits = 0 then true
  else if 400 < exponent then false
  else if 0 ≤ exponent then digits * Nat.pow 10 exponent.toNat < limit
  else if exponent < -100000 then true
  else digits < limit * Nat.pow 10 (-exponent).toNat

/-- The exponent after the letter `e`, zero where there is none. -/
def exponent? (cs : List Char) : Option Int :=
  match cs with
  | [] => some 0
  | e :: rest =>
      if e ≠ 'e' ∧ e ≠ 'E' then none
      else
        match rest with
        | '-' :: digits => (numberIn? 10 digits).map fun n => -(n : Int)
        | '+' :: digits => (numberIn? 10 digits).map fun n => (n : Int)
        | digits => (numberIn? 10 digits).map fun n => (n : Int)

/-- A decimal without a sign, its digits as one number and the power of ten that goes with it.
There must be a digit before or after the point. -/
def decimal? (cs : List Char) : Option (Nat × Int) := do
  let isDigit := fun (c : Char) => '0' ≤ c && c ≤ '9'
  let whole := cs.takeWhile isDigit
  let rest := cs.dropWhile isDigit
  let (fraction, rest) := match rest with
    | '.' :: more => (more.takeWhile isDigit, more.dropWhile isDigit)
    | _ => ([], rest)
  let digits ← numberIn? 10 (whole ++ fraction)
  let exponent ← exponent? rest
  return (digits, exponent - fraction.length)

end NetConsole.Decimal
