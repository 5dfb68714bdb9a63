import NetConsole.Url.Domain.Mapping
import NetConsole.Url.Domain.Direction
import NetConsole.Url.Domain.Joining
import NetConsole.Url.Domain.Punycode

/-!
# Domain names in ASCII

The form in which a domain name stands in a URL: its characters mapped and composed, every label
checked, and labels with other than ASCII characters encoded.
-/

set_option autoImplicit false

namespace NetConsole.Url.Domain

open Text

/-- The ASCII characters that no domain name may hold. -/
def isForbidden (c : Char) : Bool :=
  c.toNat ≤ 0x20 || c.toNat == 0x7F || "%#/:<>?@[\\]^|".toList.contains c

/-- Whether all characters are ASCII. -/
def isAscii (cs : List Char) : Bool := cs.all fun c => c.toNat < 0x80

/-- The labels of a name. -/
def labels (cs : List Char) : List (List Char) := cs.splitOn '.'

/-- What a label of a mapped name stands for: itself, or what its encoded form describes. An
encoded form must describe something that is not ASCII and is its own mapping. -/
def meaning (label : List Char) : Option (List Char) :=
  match label with
  | 'x' :: 'n' :: '-' :: '-' :: encoded =>
      match decodeLabel encoded with
      | none => none
      | some decoded =>
          if isAscii decoded then none
          else if composed (decoded.map Char.toNat) ≠ decoded.map Char.toNat then none
          else if decoded.all isValid then some decoded else none
  | _ => some label

/-- Whether the meaning of a label may stand in a name. -/
def isAllowed (label : List Char) : Bool :=
  label.all (fun c => !isForbidden c && !disallowedRanges.contains c) &&
    !(label.head?.any markRanges.contains) && joinersAllowed [] label

/-- A label as it is written. -/
def written (label : List Char) : List Char :=
  if isAscii label then label else ['x', 'n', '-', '-'] ++ encodeLabel label

/-- The ASCII form of a domain name, if it is one. -/
def toAscii (name : List Char) : Option String := do
  let parts := labels (mapName name)
  let meanings ← parts.mapM meaning
  if !meanings.all isAllowed then none
  else if meanings.any hasRightToLeft && !meanings.all obeysDirection then none
  else some (".".intercalate ((parts.map written).map String.ofList))

end NetConsole.Url.Domain
