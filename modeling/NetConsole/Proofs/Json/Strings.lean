import NetConsole.Json.Scan

/-!
# Reading a string that was written

Every escape that a string is written with is read as the character it stands for, whatever follows,
so a string is read back up to its closing quote, by a reader and by one that passes over it.
-/

set_option autoImplicit false

namespace NetConsole.Json

theorem hexValue?_hexDigit (n : Nat) : hexValue? (hexDigit n) = some (n % 16) := by
  have digits : ∀ d, d < 16 → hexValue? (Nat.digitChar d) = some d := by decide
  exact digits (n % 16) (Nat.mod_lt n (by decide))

theorem hexUnit_control {n : Nat} (small : n < 0x20) (rest : List Char) :
    hexUnit ('0' :: '0' :: hexDigit (n / 16) :: hexDigit n :: rest) = .ok (n, rest) := by
  have zero : hexValue? '0' = some 0 := rfl
  simp only [hexUnit, zero, hexValue?_hexDigit]
  congr 2
  omega

/-- A character that is written as itself. -/
structure IsPlain (c : Char) : Prop where
  quote : c ≠ '"'
  backslash : c ≠ '\\'
  control : ¬ c.toNat < 0x20

/-- How a character is written: by a letter, by its number, or as itself. -/
theorem escapeChar_cases (c : Char) :
    (∃ letter, simpleEscape? letter = some c ∧ escapeChar c = ['\\', letter]) ∨
      (c.toNat < 0x20 ∧
        escapeChar c = ['\\', 'u', '0', '0', hexDigit (c.toNat / 16), hexDigit c.toNat]) ∨
      (IsPlain c ∧ escapeChar c = [c]) := by
  by_cases quote : c = '"'
  · subst quote
    exact .inl ⟨'"', rfl, rfl⟩
  by_cases backslash : c = '\\'
  · subst backslash
    exact .inl ⟨'\\', rfl, rfl⟩
  by_cases newLine : c = '\n'
  · subst newLine
    exact .inl ⟨'n', rfl, rfl⟩
  by_cases carriageReturn : c = '\r'
  · subst carriageReturn
    exact .inl ⟨'r', rfl, rfl⟩
  by_cases tab : c = '\t'
  · subst tab
    exact .inl ⟨'t', rfl, rfl⟩
  by_cases backspace : c.toNat = 8
  · have same : c = Char.ofNat 8 := by rw [← backspace, Char.ofNat_toNat]
    subst same
    exact .inl ⟨'b', rfl, rfl⟩
  by_cases formFeed : c.toNat = 12
  · have same : c = Char.ofNat 12 := by rw [← formFeed, Char.ofNat_toNat]
    subst same
    exact .inl ⟨'f', rfl, rfl⟩
  have escaped : escapeChar c = if c.toNat < 0x20 then
      ['\\', 'u', '0', '0', hexDigit (c.toNat / 16), hexDigit c.toNat] else [c] := by
    simp only [escapeChar, quote, backslash, newLine, carriageReturn, tab, backspace, formFeed,
      if_false]
  by_cases control : c.toNat < 0x20
  · rw [if_pos control] at escaped
    exact .inr (.inl ⟨control, escaped⟩)
  · rw [if_neg control] at escaped
    exact .inr (.inr ⟨⟨quote, backslash, control⟩, escaped⟩)

theorem unicodeEscape_control {c : Char} (small : c.toNat < 0x20) (rest : List Char) :
    unicodeEscape ('0' :: '0' :: hexDigit (c.toNat / 16) :: hexDigit c.toNat :: rest) =
      .ok (c, rest) := by
  have low : isLowSurrogate c.toNat = false := by
    simp only [isLowSurrogate, Bool.and_eq_false_iff, decide_eq_false_iff_not]
    omega
  have high : isHighSurrogate c.toNat = false := by
    simp only [isHighSurrogate, Bool.and_eq_false_iff, decide_eq_false_iff_not]
    omega
  simp only [unicodeEscape, hexUnit_control small, bind, Except.bind, low, high, Bool.not_false,
    if_true, Bool.false_eq_true, if_false, pure, Except.pure, Char.ofNat_toNat]

private theorem ne_u_of_simple {letter c : Char} (simple : simpleEscape? letter = some c) :
    letter ≠ 'u' := by
  intro same
  subst same
  cases simple

theorem readString_escapeChar (fuel : Nat) (c : Char) (rest : List Char) :
    readString (fuel + 1) (escapeChar c ++ rest) =
      (readString fuel rest).map fun (chars, after) => (c :: chars, after) := by
  have reads : (do
      let (more, after) ← readString fuel rest
      return (c :: more, after) : Except Reason (List Char × List Char)) =
        (readString fuel rest).map fun (chars, after) => (c :: chars, after) := by
    cases readString fuel rest <;> rfl
  rcases escapeChar_cases c with ⟨letter, simple, escaped⟩ | ⟨small, escaped⟩ |
    ⟨plain, escaped⟩
  · have notUnicode := ne_u_of_simple simple
    rw [escaped, ← reads]
    simp_all [readString]
  · rw [escaped, ← reads]
    simp [readString, unicodeEscape_control small]
    rfl
  · rw [escaped, ← reads]
    simp [readString, plain.quote, plain.backslash, plain.control]

theorem skipString_escapeChar (fuel : Nat) (c : Char) (rest : List Char) :
    skipString (fuel + 1) (escapeChar c ++ rest) = skipString fuel rest := by
  rcases escapeChar_cases c with ⟨letter, simple, escaped⟩ | ⟨small, escaped⟩ |
    ⟨plain, escaped⟩
  · have notUnicode := ne_u_of_simple simple
    rw [escaped]
    simp_all [skipString]
  · rw [escaped]
    simp [skipString, hexUnit_control small]
    rfl
  · rw [escaped]
    simp [skipString, plain.quote, plain.backslash, plain.control]

theorem readString_escaped (cs rest : List Char) {fuel : Nat} (enough : cs.length < fuel) :
    readString fuel (cs.flatMap escapeChar ++ '"' :: rest) = .ok (cs, rest) := by
  induction cs generalizing fuel with
  | nil =>
      obtain ⟨fuel, rfl⟩ := Nat.exists_eq_add_of_lt enough
      rfl
  | cons c cs ih =>
      obtain ⟨fuel, rfl⟩ : ∃ less, fuel = less + 1 := ⟨fuel - 1, by omega⟩
      rw [List.flatMap_cons, List.append_assoc, readString_escapeChar,
        ih (by rw [List.length_cons] at enough; omega)]
      rfl

theorem skipString_escaped (cs rest : List Char) {fuel : Nat} (enough : cs.length < fuel) :
    skipString fuel (cs.flatMap escapeChar ++ '"' :: rest) = .ok rest := by
  induction cs generalizing fuel with
  | nil =>
      obtain ⟨fuel, rfl⟩ := Nat.exists_eq_add_of_lt enough
      rfl
  | cons c cs ih =>
      obtain ⟨fuel, rfl⟩ : ∃ less, fuel = less + 1 := ⟨fuel - 1, by omega⟩
      rw [List.flatMap_cons, List.append_assoc, skipString_escapeChar]
      exact ih (by rw [List.length_cons] at enough; omega)

theorem length_escapeChar_pos (c : Char) : 0 < (escapeChar c).length := by
  rcases escapeChar_cases c with ⟨letter, -, escaped⟩ | ⟨-, escaped⟩ | ⟨-, escaped⟩ <;>
    rw [escaped] <;> exact Nat.succ_pos _

theorem length_le_escaped (cs : List Char) : cs.length ≤ (cs.flatMap escapeChar).length := by
  induction cs with
  | nil => exact Nat.le_refl 0
  | cons c cs ih =>
      have one := length_escapeChar_pos c
      rw [List.flatMap_cons, List.length_append, List.length_cons]
      omega

/-- A string is scanned back from its text, after the opening quote. -/
theorem scanString_quoted (s : String) (rest : List Char) :
    scanString (s.toList.flatMap escapeChar ++ '"' :: rest) =
      ({ read := .ok s, skip := none }, some rest) := by
  have enough : s.toList.length <
      (s.toList.flatMap escapeChar ++ '"' :: rest).length + 1 := by
    have within := length_le_escaped s.toList
    rw [List.length_append]
    omega
  simp only [scanString, readString_escaped _ rest enough, skipString_escaped _ rest enough,
    Except.map, String.ofList_toList]

end NetConsole.Json
