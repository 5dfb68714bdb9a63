/-!
# Finite binary64 numbers

A finite double as exact integers, and the one rounding that every operation on it uses:
to the nearest, a tie going to the even neighbour.
-/

set_option autoImplicit false

namespace NetConsole.Decimal

/-- The nearest integer to `num / den`, a tie going to the even one. -/
def roundHalfEven (num den : Nat) : Nat :=
  let whole := num / den
  let rest := num % den
  if 2 * rest < den then whole
  else if den < 2 * rest then whole + 1
  else if whole % 2 = 0 then whole else whole + 1

/-- A finite double: the sign and `mantissa · 2 ^ exponent`. Values made by `ofRatio` have a
mantissa below `2 ^ 53` and the least exponent that allows it, never below -1074. -/
structure Binary64 where
  negative : Bool
  mantissa : Nat
  exponent : Int
  deriving DecidableEq, Repr, Inhabited

namespace Binary64

/-- The least mantissa that takes all 53 bits. -/
def leastNormal : Nat := 4503599627370496

def zero (negative : Bool) : Binary64 := ⟨negative, 0, -1074⟩

/-- `num · 2 ^ shift / den` as a pair of integers without the power of two. -/
def scale (num den : Nat) (shift : Int) : Nat × Nat :=
  if 0 ≤ shift then (num * Nat.pow 2 shift.toNat, den) else (num, den * Nat.pow 2 (-shift).toNat)

/-- The double nearest to `num / den`; nothing when it is beyond the largest finite one. -/
def ofRatio (negative : Bool) (num den : Nat) : Option Binary64 :=
  if num = 0 ∨ den = 0 then some (zero negative) else
    let guess : Int := (num.log2 : Int) - (den.log2 : Int) - 52
    let (tryNum, tryDen) := scale num den (-guess)
    let exact : Int := if tryNum / tryDen < leastNormal then guess - 1 else guess
    let exponent := max exact (-1074)
    let (scaledNum, scaledDen) := scale num den (-exponent)
    let mantissa := roundHalfEven scaledNum scaledDen
    let result : Binary64 :=
      if mantissa = 2 * leastNormal then ⟨negative, leastNormal, exponent + 1⟩
      else ⟨negative, mantissa, exponent⟩
    if 971 < result.exponent then none else some result

def ofNat (n : Nat) : Option Binary64 := ofRatio false n 1

def isZero (x : Binary64) : Bool := x.mantissa == 0

/-- The same magnitude with the sign that is given. -/
def withSign (x : Binary64) (negative : Bool) : Binary64 := { x with negative }

/-- The rounded product; nothing on overflow. -/
def mul (x y : Binary64) : Option Binary64 :=
  let (num, den) := scale (x.mantissa * y.mantissa) 1 (x.exponent + y.exponent)
  ofRatio (x.negative != y.negative) num den

/-- The rounded quotient by a number that is not zero; nothing on overflow. -/
def div (x y : Binary64) : Option Binary64 :=
  let (num, den) := scale x.mantissa y.mantissa (x.exponent - y.exponent)
  ofRatio (x.negative != y.negative) num den

end Binary64

end NetConsole.Decimal
