import NetConsole.Decimal.Digits
import NetConsole.Json.Printer
import NetConsole.Json.Scan
import Mathlib.Data.List.TakeDrop

/-!
# Reading an integer that was written

The digits of a number are read back as that number wherever they end, so an integer that fits a
64-bit word is scanned back from its text.
-/

set_option autoImplicit false

namespace NetConsole.Json

open Decimal

/-! ## Digits -/

theorem isDigit_of_mem_digitChars {n : Nat} {c : Char} (member : c ∈ digitChars n) :
    isDigit c = true := by
  have digit := Nat.isDigit_of_mem_toDigits (by decide) (by decide) member
  simpa [isDigit, Char.isDigit, Char.le_def, UInt32.le_iff_toNat_le] using digit

theorem digitValue_digitChar {n : Nat} (small : n < 10) : digitValue (Nat.digitChar n) = n :=
  Nat.toNat_digitChar_sub_48_of_lt_ten small

theorem digitsValue_digitChars (n : Nat) : digitsValue (digitChars n) = n := by
  induction n using Nat.strongRecOn with
  | ind n ih =>
      by_cases small : n < 10
      · rw [digitChars, Nat.toDigits_of_lt_base small]
        simp only [digitsValue, List.foldl_cons, List.foldl_nil, digitValue_digitChar small]
        omega
      · have shorter := ih (n / 10) (by omega)
        rw [digitChars, Nat.toDigits_of_base_le (by decide) (by omega)]
        simp only [digitsValue, digitChars] at shorter ⊢
        rw [List.foldl_append, shorter, List.foldl_cons, List.foldl_nil,
          digitValue_digitChar (Nat.mod_lt n (by decide))]
        omega

theorem digitChars_ne_nil (n : Nat) : digitChars n ≠ [] := Nat.toDigits_ne_nil

theorem head_digitChars {n : Nat} (positive : 0 < n) : (digitChars n).head? ≠ some '0' := by
  induction n using Nat.strongRecOn with
  | ind n ih =>
      by_cases small : n < 10
      · rw [digitChars, Nat.toDigits_of_lt_base small, List.head?_cons]
        intro same
        have zero : n.digitChar = '0' := Option.some.inj same
        rw [Nat.digitChar_eq_zero] at zero
        omega
      · have shorter := ih (n / 10) (by omega) (by omega)
        rw [digitChars, Nat.toDigits_of_base_le (by decide) (by omega), List.head?_append]
        rw [digitChars] at shorter
        cases first : (Nat.toDigits 10 (n / 10)).head? with
        | none => exact absurd (List.head?_eq_none_iff.mp first) Nat.toDigits_ne_nil
        | some c =>
            rw [first] at shorter
            exact shorter

theorem digitIn?_ten {c : Char} (digit : isDigit c = true) : digitIn? 10 c = some (digitValue c) := by
  have range : '0' ≤ c ∧ c ≤ '9' := by simpa [isDigit] using digit
  have low : 48 ≤ c.toNat := range.1
  have high : c.toNat ≤ 57 := range.2
  have small : digitValue c < 10 := by
    rw [digitValue]
    omega
  unfold digitIn?
  rw [if_pos range]
  exact if_pos small

/-- Digits are read as the number that they are, zeros before it included. -/
theorem numberIn?_of_isDigit {digits : List Char} (given : digits ≠ [])
    (all : ∀ c ∈ digits, isDigit c = true) : numberIn? 10 digits = some (digitsValue digits) := by
  suffices folded : ∀ start, digits.foldlM (fun n c => (digitIn? 10 c).map (n * 10 + ·)) start =
      some (digits.foldl (fun n c => n * 10 + digitValue c) start) by
    rw [numberIn?, if_neg given]
    exact folded 0
  clear given
  induction digits with
  | nil => exact fun _ => rfl
  | cons d rest ih =>
      intro start
      obtain ⟨first, others⟩ := List.forall_mem_cons.mp all
      rw [List.foldlM_cons, digitIn?_ten first, List.foldl_cons, ← ih others]
      rfl

theorem numberIn?_digitChars (n : Nat) : numberIn? 10 (digitChars n) = some n := by
  rw [numberIn?_of_isDigit (digitChars_ne_nil n) fun c member => isDigit_of_mem_digitChars member,
    digitsValue_digitChars]

/-! ## Numbers -/

/-- What may follow a number: nothing that could be part of one. -/
def EndsNumber (rest : List Char) : Prop :=
  ∀ c ∈ rest.head?, isDigit c = false ∧ c ≠ '.' ∧ c ≠ 'e' ∧ c ≠ 'E'

/-- A run of characters with a property is taken up to where it ends. -/
theorem takeWhile_append_of_ends {p : Char → Bool} {word rest : List Char}
    (all : ∀ c ∈ word, p c = true) (ends : ∀ c ∈ rest.head?, p c = false) :
    (word ++ rest).takeWhile p = word ∧ (word ++ rest).dropWhile p = rest := by
  rw [List.takeWhile_append_of_pos all, List.dropWhile_append_of_pos all]
  cases rest with
  | nil => simp
  | cons c rest => simp [ends c rfl]

theorem spanDigits_append {digits rest : List Char} (all : ∀ c ∈ digits, isDigit c = true)
    (ends : EndsNumber rest) : spanDigits (digits ++ rest) = (digits, rest) := by
  obtain ⟨taken, left⟩ := takeWhile_append_of_ends all fun c first => (ends c first).1
  rw [spanDigits, List.span_eq_takeWhile_dropWhile, taken, left]

/-- There is no fraction and no exponent where none could begin. -/
theorem lexTail_of_ends {rest : List Char} (negative : Bool) (whole : List Char)
    (ends : EndsNumber rest) :
    lexTail negative whole rest = .ok (⟨negative, whole, none, none⟩, rest) := by
  cases rest with
  | nil => rfl
  | cons c more =>
      obtain ⟨-, point, small, large⟩ := ends c rfl
      simp [lexTail, point, small, large]
      rfl

private theorem lexNumber_unsigned (n : Nat) {rest : List Char} (ends : EndsNumber rest)
    (negative : Bool) :
    (match digitChars n ++ rest with
      | [] => .error .endOfValue
      | '0' :: rest =>
          match rest with
          | c :: _ => if isDigit c then .error .invalidNumber else lexTail negative ['0'] rest
          | [] => lexTail negative ['0'] []
      | c :: rest =>
          if isDigit c then
            let (digits, after) := spanDigits (c :: rest)
            lexTail negative digits after
          else .error .invalidNumber : Except Reason (Numeral × List Char)) =
      .ok (⟨negative, digitChars n, none, none⟩, rest) := by
  have spanned : spanDigits (digitChars n ++ rest) = (digitChars n, rest) :=
    spanDigits_append (fun c member => isDigit_of_mem_digitChars member) ends
  have tail := lexTail_of_ends negative (digitChars n) ends
  rcases Nat.eq_zero_or_pos n with zero | positive
  · subst zero
    have single : digitChars 0 = ['0'] := Nat.toDigits_zero 10
    rw [single] at tail ⊢
    cases rest with
    | nil => exact tail
    | cons c more =>
        have none := (ends c rfl).1
        simp only [List.singleton_append, none]
        exact tail
  · have first := head_digitChars positive
    cases digits : digitChars n with
    | nil => exact absurd digits (digitChars_ne_nil n)
    | cons d more =>
        rw [digits] at first spanned tail
        have digit : isDigit d = true :=
          isDigit_of_mem_digitChars (n := n) (by rw [digits]; exact List.mem_cons_self)
        have notZero : d ≠ '0' := fun same => first (by rw [same]; rfl)
        rw [List.cons_append] at spanned ⊢
        split
        · next nothing => cases nothing
        · next same =>
            cases same
            exact absurd rfl notZero
        · next c after same =>
            cases same
            rw [digit, spanned]
            exact tail

theorem ne_minus_of_mem_digitChars {n : Nat} {c : Char} (member : c ∈ digitChars n) : c ≠ '-' := by
  intro same
  subst same
  exact absurd (isDigit_of_mem_digitChars member) (by decide)

theorem lexNumber_digitChars (n : Nat) {rest : List Char} (ends : EndsNumber rest) :
    lexNumber (digitChars n ++ rest) = .ok (⟨false, digitChars n, none, none⟩, rest) := by
  rw [← lexNumber_unsigned n ends false]
  unfold lexNumber
  cases digits : digitChars n with
  | nil => exact absurd digits (digitChars_ne_nil n)
  | cons d more =>
      have notMinus : d ≠ '-' :=
        ne_minus_of_mem_digitChars (n := n) (by rw [digits]; exact List.mem_cons_self)
      rw [List.cons_append]
      split
      · next same =>
          split at same
          · next minus =>
              cases minus
              exact absurd rfl notMinus
          · cases same
            rfl

theorem lexNumber_minus (n : Nat) {rest : List Char} (ends : EndsNumber rest) :
    lexNumber ('-' :: (digitChars n ++ rest)) = .ok (⟨true, digitChars n, none, none⟩, rest) := by
  rw [← lexNumber_unsigned n ends true]
  rfl

/-- Whether an integer fits a 64-bit word, signed or not. -/
def IsWord (i : Int) : Prop := -(half64 : Int) ≤ i ∧ i < words64

instance (i : Int) : Decidable (IsWord i) := inferInstanceAs (Decidable (_ ∧ _))

/-- An integer that fits a word is scanned back from its text. -/
theorem scanNumber_integerChars {i : Int} (fits : IsWord i) {rest : List Char}
    (ends : EndsNumber rest) :
    scanNumber (integerChars i ++ rest) =
      ({ read := .ok (.integer i), skip := none }, some rest) := by
  obtain ⟨low, high⟩ := fits
  by_cases negative : i < 0
  · have value : Numeral.value ⟨true, digitChars i.natAbs, none, none⟩ = .ok (.integer i) := by
      have within : i.natAbs ≤ maxWord ∧ i.natAbs ≠ 0 ∧ i.natAbs ≤ half64 := by
        simp only [maxWord, half64, words64] at low ⊢
        omega
      simp only [Numeral.value, digitsValue_digitChars]
      rw [if_pos ⟨rfl, rfl, within.1, .inr within.2⟩, if_pos trivial]
      congr 2
      omega
    rw [integerChars, if_pos negative, List.cons_append, scanNumber, lexNumber_minus _ ends]
    simp only [value]
  · have value : Numeral.value ⟨false, digitChars i.natAbs, none, none⟩ = .ok (.integer i) := by
      have within : i.natAbs ≤ maxWord := by
        simp only [maxWord, words64] at high ⊢
        omega
      simp only [Numeral.value, digitsValue_digitChars]
      rw [if_pos ⟨rfl, rfl, within, .inl rfl⟩, if_neg Bool.false_ne_true]
      congr 2
      omega
    rw [integerChars, if_neg negative, scanNumber, lexNumber_digitChars _ ends]
    simp only [value]

end NetConsole.Json
