import NetConsole.Decimal.Binary64

/-!
# The shortest decimal that reads back

For a finite double, the decimal with the fewest digits among those that round to it, and of
these the nearest to it. The search goes down the decimal grids `10 ^ k` and takes the first one
with a point in the interval of reals that round to the double.
-/

set_option autoImplicit false

namespace NetConsole.Decimal

/-- The decimal `digits · 10 ^ exponent`. -/
structure Scaled where
  digits : Nat
  exponent : Int
  deriving DecidableEq, Repr, Inhabited

/-- The interval of reals that round to a positive double, as numerators over one denominator;
its ends belong to it exactly when the mantissa is even. -/
structure Neighbourhood where
  low : Nat
  value : Nat
  high : Nat
  denominator : Nat
  ends : Bool

/-- The reals that round to a positive double. The gap below a power of two is half as wide. -/
def Binary64.neighbourhood (x : Binary64) : Neighbourhood :=
  let below := if x.mantissa = Binary64.leastNormal ∧ -1074 < x.exponent then 1 else 2
  let (factor, denominator) := Binary64.scale 1 1 (x.exponent - 2)
  { low := (4 * x.mantissa - below) * factor
    value := 4 * x.mantissa * factor
    high := (4 * x.mantissa + 2) * factor
    denominator
    ends := x.mantissa % 2 == 0 }

/-- The point of the grid `10 ^ k` that lies in the interval, the nearest to the value if both
neighbours do, a tie going to the even one. -/
def Neighbourhood.gridPoint (n : Neighbourhood) (k : Int) : Option Nat :=
  let up := Nat.pow 10 (-k).toNat
  let unit := n.denominator * Nat.pow 10 k.toNat
  let low := n.low * up
  let value := n.value * up
  let high := n.high * up
  let below := value / unit
  let above := below + 1
  let belowIn := if n.ends then low ≤ below * unit else low < below * unit
  let aboveIn := if n.ends then above * unit ≤ high else above * unit < high
  if belowIn then
    if aboveIn then
      let short := value - below * unit
      let beyond := above * unit - value
      if short < beyond then some below
      else if beyond < short then some above
      else if below % 2 = 0 then some below else some above
    else some below
  else if aboveIn then some above else none

/-- The first grid with a point in the interval, going down from `10 ^ k` over `steps` grids. -/
def Neighbourhood.search (n : Neighbourhood) : Nat → Int → Scaled
  | 0, k => ⟨0, k⟩
  | steps + 1, k =>
      match n.gridPoint k with
      | some digits => ⟨digits, k⟩
      | none => n.search steps (k - 1)

/-- The shortest decimal that rounds to the magnitude of a double. The first grid tried lies
above the value; seventeen digits always suffice, so the search over 25 grids ends with a hit. -/
def Binary64.shortest (x : Binary64) : Scaled :=
  if x.mantissa = 0 then ⟨0, 0⟩ else
    let n := x.neighbourhood
    let bits : Int := (n.high.log2 : Int) - (n.denominator.log2 : Int) + 1
    n.search 25 (bits * 30103 / 100000 + 1)

/-- The decimal digits of a number, without leading zeros. -/
def digitChars (n : Nat) : List Char := Nat.toDigits 10 n

end NetConsole.Decimal
