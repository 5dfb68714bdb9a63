import NetConsole.Text.Utf8
import Mathlib.Data.List.Basic

/-!
# Texts are read back from their bytes

The bytes of a text hold its characters one after another, and each is read as itself: the first
byte tells how many follow and what the next one may be, which excludes no character.
-/

set_option autoImplicit false

namespace NetConsole.Text

/-! ## Bytes of one character -/

theorem toNat_ofNat {n : Nat} (byte : n < 256) : (UInt8.ofNat n).toNat = n := by
  rw [UInt8.toNat_ofNat', Nat.mod_eq_of_lt byte]

/-- A byte that continues a character adds its six bits. -/
theorem continuation_cons {count code low high used bits : Nat} {rest : List UInt8}
    (six : bits < 64) (least : low ≤ bits + 128) (greatest : bits + 128 ≤ high) :
    continuation (count + 1) code low high used (UInt8.ofNat (bits + 128) :: rest) =
      continuation count (code * 64 + bits) 0x80 0xBF (used + 1) rest := by
  rw [continuation, toNat_ofNat (by omega), if_pos ⟨least, greatest⟩, Nat.add_sub_cancel]

theorem continuation_plain {count code used bits : Nat} {rest : List UInt8} (six : bits < 64) :
    continuation (count + 1) code 0x80 0xBF used (UInt8.ofNat (bits + 128) :: rest) =
      continuation count (code * 64 + bits) 0x80 0xBF (used + 1) rest :=
  continuation_cons six (by omega) (by omega)

section

variable {n : Nat}

theorem leadByte_two (long : 0x80 ≤ n) (short : n ≤ 0x7FF) :
    leadByte (n / 64 % 32 + 192) = some (1, n / 64, 0x80, 0xBF) := by
  rw [leadByte, if_neg (by omega), if_pos (by omega)]
  exact congrArg (fun bits => some (1, bits, 0x80, 0xBF)) (by omega)

/-- The first of three bytes, and what it lets the second be. Only surrogates are left out, which are
no characters. -/
theorem leadByte_three (long : 0x800 ≤ n) (short : n ≤ 0xFFFF) (valid : n < 0xD800 ∨ 0xDFFF < n) :
    ∃ low high, leadByte (n / 4096 % 16 + 224) = some (2, n / 4096, low, high) ∧
      low ≤ n / 64 % 64 + 128 ∧ n / 64 % 64 + 128 ≤ high := by
  rw [leadByte, if_neg (by omega), if_neg (by omega)]
  by_cases first : n / 4096 % 16 + 224 = 0xE0
  · rw [if_pos first]
    exact ⟨0xA0, 0xBF, congrArg (fun bits => some (2, bits, 0xA0, 0xBF)) (by omega),
      by omega, by omega⟩
  · rw [if_neg first]
    by_cases split : n / 4096 % 16 + 224 = 0xED
    · rw [if_pos split]
      exact ⟨0x80, 0x9F, congrArg (fun bits => some (2, bits, 0x80, 0x9F)) (by omega),
        by omega, by omega⟩
    · rw [if_neg split, if_pos (by omega)]
      exact ⟨0x80, 0xBF, congrArg (fun bits => some (2, bits, 0x80, 0xBF)) (by omega),
        by omega, by omega⟩

theorem leadByte_four (long : 0x10000 ≤ n) (valid : n ≤ 0x10FFFF) :
    ∃ low high, leadByte (n / 262144 % 8 + 240) = some (3, n / 262144, low, high) ∧
      low ≤ n / 4096 % 64 + 128 ∧ n / 4096 % 64 + 128 ≤ high := by
  rw [leadByte, if_neg (by omega), if_neg (by omega), if_neg (by omega), if_neg (by omega),
    if_neg (by omega)]
  by_cases first : n / 262144 % 8 + 240 = 0xF0
  · rw [if_pos first]
    exact ⟨0x90, 0xBF, congrArg (fun bits => some (3, bits, 0x90, 0xBF)) (by omega),
      by omega, by omega⟩
  · rw [if_neg first]
    by_cases middle : n / 262144 % 8 + 240 ≤ 0xF3
    · rw [if_pos (by omega)]
      exact ⟨0x80, 0xBF, congrArg (fun bits => some (3, bits, 0x80, 0xBF)) (by omega),
        by omega, by omega⟩
    · rw [if_neg (by omega), if_pos (by omega)]
      exact ⟨0x80, 0x8F, congrArg (fun bits => some (3, bits, 0x80, 0x8F)) (by omega),
        by omega, by omega⟩

end

/-! ## Texts -/

/-- The bytes of a character are read as it, whatever follows them. -/
theorem decodeFront_encoded (c : Char) : ∃ lead tail, String.utf8EncodeChar c = lead :: tail ∧
    ∀ rest, decodeFront lead (tail ++ rest) = (some c, tail.length + 1) := by
  have valid : c.val.toNat < 0xD800 ∨ 0xDFFF < c.val.toNat ∧ c.val.toNat < 0x110000 := c.valid
  have back : Char.ofNat c.val.toNat = c := Char.ofNat_toNat c
  unfold String.utf8EncodeChar
  dsimp only
  generalize c.val.toNat = n at valid back ⊢
  -- a case for each number of bytes, in which the bits of the bytes are put together again
  split
  case isTrue one =>
    refine ⟨_, _, rfl, fun rest => ?_⟩
    have lead : leadByte n = some (0, n, 0, 0) := if_pos (by omega)
    rw [decodeFront, toNat_ofNat (by omega), lead, ← back]
    cases rest <;> rfl
  case isFalse more =>
    split
    case isTrue two =>
      refine ⟨_, _, rfl, fun rest => ?_⟩
      rw [decodeFront, toNat_ofNat (by omega), leadByte_two (by omega) two]
      dsimp only [List.cons_append, List.nil_append]
      rw [continuation_plain (by omega)]
      have code : n / 64 * 64 + n % 64 = n := by omega
      rw [continuation, code, ← back]
      rfl
    case isFalse more =>
      split
      case isTrue three =>
        refine ⟨_, _, rfl, fun rest => ?_⟩
        obtain ⟨low, high, lead, least, greatest⟩ := leadByte_three (by omega) three (by omega)
        rw [decodeFront, toNat_ofNat (by omega), lead]
        dsimp only [List.cons_append, List.nil_append]
        rw [continuation_cons (by omega) least greatest, continuation_plain (by omega)]
        have code : (n / 4096 * 64 + n / 64 % 64) * 64 + n % 64 = n := by omega
        rw [continuation, code, ← back]
        rfl
      case isFalse four =>
        refine ⟨_, _, rfl, fun rest => ?_⟩
        obtain ⟨low, high, lead, least, greatest⟩ := @leadByte_four n (by omega) (by omega)
        rw [decodeFront, toNat_ofNat (by omega), lead]
        dsimp only [List.cons_append, List.nil_append]
        rw [continuation_cons (by omega) least greatest, continuation_plain (by omega),
          continuation_plain (by omega)]
        have code : ((n / 262144 * 64 + n / 4096 % 64) * 64 + n / 64 % 64) * 64 + n % 64 = n := by
          omega
        rw [continuation, code, ← back]
        rfl

/-- Only the characters of ASCII have bytes of ASCII. -/
theorem toNat_of_mem_utf8EncodeChar {c : Char} {b : UInt8} (ascii : b.toNat < 0x80)
    (member : b ∈ String.utf8EncodeChar c) : c.toNat = b.toNat := by
  change c.val.toNat = b.toNat
  unfold String.utf8EncodeChar at member
  dsimp only at member
  generalize c.val.toNat = n at member ⊢
  -- beyond the first case every byte has its highest bit
  split at member
  case isTrue one =>
    cases List.mem_singleton.mp member
    exact (toNat_ofNat (by omega)).symm
  case isFalse more =>
    have high {bits : Nat} (same : b = UInt8.ofNat bits) (least : 0x80 ≤ bits) (byte : bits < 256) :
        n = b.toNat := by
      rw [same, toNat_ofNat byte] at ascii
      omega
    split at member
    case isTrue two =>
      simp only [List.mem_cons, List.not_mem_nil, or_false] at member
      rcases member with same | same <;> exact high same (by omega) (by omega)
    case isFalse more =>
      split at member
      case isTrue three =>
        simp only [List.mem_cons, List.not_mem_nil, or_false] at member
        rcases member with same | same | same <;> exact high same (by omega) (by omega)
      case isFalse four =>
        simp only [List.mem_cons, List.not_mem_nil, or_false] at member
        rcases member with same | same | same | same <;> exact high same (by omega) (by omega)

theorem mem_of_mem_bytes {s : String} {b : UInt8} (ascii : b.toNat < 0x80) (member : b ∈ bytes s) :
    Char.ofNat b.toNat ∈ s.toList := by
  obtain ⟨c, present, encoded⟩ := List.mem_flatMap.mp member
  rw [← toNat_of_mem_utf8EncodeChar ascii encoded, Char.ofNat_toNat]
  exact present

theorem bytes_append (one two : String) : bytes (one ++ two) = bytes one ++ bytes two := by
  rw [bytes, String.toList_append, utf8, List.flatMap_append]
  rfl

/-- With fuel enough the bytes of characters are read as these, one by one. -/
theorem decodeParts_utf8 (cs : List Char) {fuel : Nat} (enough : (utf8 cs).length ≤ fuel) :
    decodeParts fuel (utf8 cs) = cs.map some := by
  induction cs generalizing fuel with
  | nil => cases fuel <;> rfl
  | cons c rest ih =>
      obtain ⟨lead, tail, encoded, front⟩ := decodeFront_encoded c
      have spelled : utf8 (c :: rest) = lead :: (tail ++ utf8 rest) := by
        rw [utf8, List.flatMap_cons, encoded]
        rfl
      rw [spelled, List.length_cons, List.length_append] at enough
      obtain ⟨less, rfl⟩ : ∃ less, fuel = less + 1 := ⟨fuel - 1, by omega⟩
      rw [spelled, decodeParts, front]
      dsimp only
      rw [Nat.add_sub_cancel, List.drop_left, ih (by omega), List.map_cons]

theorem lossyText_bytes (s : String) : lossyText (bytes s) = s := by
  rw [lossyText, bytes, decodeParts_utf8 _ (Nat.le_refl _), List.map_map]
  simp [Function.comp_def]

theorem exactText?_bytes (s : String) : exactText? (bytes s) = some s := by
  have whole (cs : List Char) : (cs.map some).mapM id = some cs := by
    induction cs with
    | nil => rfl
    | cons c rest ih => rw [List.map_cons, List.mapM_cons, ih]; rfl
  rw [exactText?, bytes, decodeParts_utf8 _ (Nat.le_refl _), whole, Option.map_some,
    String.ofList_toList]

theorem bytes_injective {one two : String} (same : bytes one = bytes two) : one = two := by
  rw [← lossyText_bytes one, same, lossyText_bytes]

end NetConsole.Text
