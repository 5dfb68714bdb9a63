import NetConsole.Decimal.Word

/-!
# Punycode

The ASCII form of a label: its ASCII characters, then the places of all others as numbers whose
digits are letters and decimal digits, with thresholds that adapt to the numbers seen so far.
-/

set_option autoImplicit false

namespace NetConsole.Url.Domain

/-- The threshold for the digit at a place, which grows with the place by 36 each time. -/
def threshold (place bias : Nat) : Nat :=
  if place ≤ bias then 1 else if bias + 26 ≤ place then 26 else place - bias

/-- How often a number can be divided by 35 until it is at most 455, and what is left; the fuel is
the number itself. -/
def settle : Nat → Nat → Nat → Nat × Nat
  | 0, delta, k => (delta, k)
  | fuel + 1, delta, k => if 455 < delta then settle fuel (delta / 35) (k + 36) else (delta, k)

/-- The bias after a number, given how many characters there are by then. -/
def adapt (delta count : Nat) (first : Bool) : Nat :=
  let scaled := if first then delta / 700 else delta / 2
  let delta := scaled + scaled / count
  let (rest, k) := settle delta delta 0
  k + 36 * rest / (rest + 38)

/-- The character of a digit. -/
def digitChar (d : Nat) : Char := if d < 26 then Char.ofNat (97 + d) else Char.ofNat (22 + d)

/-- The digits of a number; the fuel is one more than the number. -/
def numberDigits : Nat → Nat → Nat → Nat → List Char
  | 0, _, _, _ => []
  | fuel + 1, q, place, bias =>
      let t := threshold place bias
      if q < t then [digitChar q]
      else digitChar (t + (q - t) % (36 - t)) ::
        numberDigits fuel ((q - t) / (36 - t)) (place + 36) bias

/-- Where the coding stands. -/
structure Coding where
  delta : Nat
  bias : Nat
  count : Nat
  output : List Char

/-- The pass over the label for one code point: smaller ones are counted, each occurrence is
written. -/
def encodePass (code basic : Nat) (label : List Nat) (start : Coding) : Coding :=
  label.foldl (fun state c =>
    if c < code then { state with delta := state.delta + 1 }
    else if c = code then
      { delta := 0
        bias := adapt state.delta (state.count + 1) (state.count == basic)
        count := state.count + 1
        output := state.output ++ numberDigits (state.delta + 1) state.delta 36 state.bias }
    else state) start

/-- The passes for all code points that are not ASCII, in ascending order. -/
def encodePasses (basic : Nat) (label : List Nat) : List Nat → Nat → Coding → Coding
  | [], _, state => state
  | code :: rest, from_, state =>
      let state := { state with delta := state.delta + (code - from_) * (state.count + 1) }
      let state := encodePass code basic label state
      encodePasses basic label rest (code + 1) { state with delta := state.delta + 1 }

/-- The ASCII form of a label, without its mark. -/
def encodeLabel (label : List Char) : List Char :=
  let codes := label.map Char.toNat
  let basic := label.filter fun c => c.toNat < 0x80
  let others := ((codes.filter (0x80 ≤ ·)).mergeSort (· ≤ ·)).eraseDups
  let start : Coding := ⟨0, 72, basic.length, []⟩
  let front := if basic = [] then [] else basic ++ ['-']
  front ++ (encodePasses basic.length codes others 0x80 start).output

/-- The value of a digit of either case. -/
def digitOf? (c : Char) : Option Nat :=
  if 'a' ≤ c ∧ c ≤ 'z' then some (c.toNat - 97)
  else if 'A' ≤ c ∧ c ≤ 'Z' then some (c.toNat - 65)
  else if '0' ≤ c ∧ c ≤ '9' then some (c.toNat - 22)
  else none

/-- A number from its digits, and the digits after it; 32 bits are not exceeded. -/
def readNumber (bias : Nat) : List Char → Nat → Nat → Nat → Option (Nat × List Char)
  | [], _, _, _ => none
  | c :: rest, i, weight, place =>
      match digitOf? c with
      | none => none
      | some d =>
          let i := i + d * weight
          let t := threshold place bias
          if Decimal.words32 ≤ i then none
          else if d < t then some (i, rest)
          else readNumber bias rest i (weight * (36 - t)) (place + 36)

/-- The label behind an ASCII form without its mark. -/
def decodeLabel (cs : List Char) : Option (List Char) :=
  let reversed := cs.reverse
  let (basic, digits) :=
    if cs.contains '-' then
      (((reversed.dropWhile (· ≠ '-')).drop 1).reverse, (reversed.takeWhile (· ≠ '-')).reverse)
    else ([], cs)
  (insertAll digits.length digits 0x80 0 72 true (basic.map Char.toNat)).map (·.map Char.ofNat)
where
  /-- The code points that digits describe, put among those that are there; the first number
  weighs differently. The fuel is the number of digits. -/
  insertAll : Nat → List Char → Nat → Nat → Nat → Bool → List Nat → Option (List Nat)
    | _, [], _, _, _, _, output => some output
    | 0, _, _, _, _, _, _ => none
    | fuel + 1, digits, code, i, bias, first, output =>
        match readNumber bias digits i 1 36 with
        | none => none
        | some (j, rest) =>
            let count := output.length + 1
            let code := code + j / count
            if 0x110000 ≤ code ∨ (0xD800 ≤ code ∧ code < 0xE000) then none
            else
              let place := j % count
              insertAll fuel rest code (place + 1) (adapt (j - i) count first) false
                (output.take place ++ code :: output.drop place)

end NetConsole.Url.Domain
