/-!
# Sets of code points

A property of characters as ascending, disjoint ranges of code points, written in hexadecimal.
-/

set_option autoImplicit false

namespace NetConsole.Text

/-- Ranges of code points, both ends included. -/
abbrev Ranges := Array (Nat × Nat)

/-- The value of hexadecimal digits; other characters count as zero. -/
def hexNat (digits : List Char) : Nat :=
  digits.foldl (fun n c =>
    n * 16 + (if '0' ≤ c ∧ c ≤ '9' then c.toNat - 48
      else if 'a' ≤ c ∧ c ≤ 'f' then c.toNat - 87 else 0)) 0

/-- The words of a text that blanks separate. -/
def words : List Char → List (List Char)
  | [] => []
  | ' ' :: rest => [] :: words rest
  | c :: rest =>
      match words rest with
      | [] => [[c]]
      | word :: more => (c :: word) :: more

/-- A range written `first-last`, or as one code point. -/
def rangeOf (word : List Char) : Nat × Nat :=
  let first := word.takeWhile (· ≠ '-')
  match word.dropWhile (· ≠ '-') with
  | [] => (hexNat first, hexNat first)
  | _ :: last => (hexNat first, hexNat last)

/-- The ranges written in a text. -/
def Ranges.ofText (text : String) : Ranges :=
  ((words text.toList).filter (· ≠ [])).map rangeOf |>.toArray

/-- The last entry of an ascending array that does not start above a code point, searched for by
halving `low ≤ i < high`; the fuel bounds the number of halvings. -/
def lastStart (starts : Nat → Nat) (code : Nat) : Nat → Nat → Nat → Option Nat
  | 0, _, _ => none
  | fuel + 1, low, high =>
      if high ≤ low then none
      else if high = low + 1 then if starts low ≤ code then some low else none
      else
        let middle := (low + high) / 2
        if starts middle ≤ code then lastStart starts code fuel middle high
        else lastStart starts code fuel low middle

/-- Whether a character lies in one of the ranges. -/
def Ranges.contains (ranges : Ranges) (c : Char) : Bool :=
  let code := c.toNat
  match lastStart (fun i => (ranges.getD i (0, 0)).1) code 32 0 ranges.size with
  | none => false
  | some i => code ≤ (ranges.getD i (0, 0)).2

end NetConsole.Text
