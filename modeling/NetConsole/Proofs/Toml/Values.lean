import NetConsole.Proofs.Json.Numbers
import NetConsole.Proofs.Toml.Strings

/-!
# Reading a value that was written

The values that are written are strings, integers that fit a signed word, and truth values. Each is
read back as itself at the end of its line. An integer could be taken for the beginning of a date or
for a number in another base, were it not that it has nothing but digits after its first character.
-/

set_option autoImplicit false

namespace NetConsole.Toml

open Config Decimal
open Json (integerChars isDigit_of_mem_digitChars)

/-! ## Integers -/

theorem ungrouped_digits {digits : List Char} (given : digits ≠ [])
    (all : ∀ c ∈ digits, isDigit c = true) : ungrouped isDigit digits = some digits := by
  induction digits with
  | nil => exact absurd rfl given
  | cons c rest ih =>
      obtain ⟨first, later⟩ := List.forall_mem_cons.mp all
      cases rest with
      | nil => simp [ungrouped, first]
      | cons d more =>
          have apart : d ≠ '_' := by
            rintro rfl
            cases later '_' List.mem_cons_self
          simp [ungrouped, first, apart, ih (List.cons_ne_nil d more) later]

theorem wholeDigits?_digitChars (n : Nat) : wholeDigits? (digitChars n) = some (digitChars n) := by
  have digits := ungrouped_digits (Json.digitChars_ne_nil n) fun c => isDigit_of_mem_digitChars
  unfold wholeDigits?
  rw [digits]
  split
  case _ zeros =>
    have positive : 0 < n := by
      apply Nat.pos_of_ne_zero
      rintro rfl
      cases zeros
    have head := Json.head_digitChars positive
    rw [Option.some.inj zeros] at head
    exact absurd rfl head
  · rfl

/-- What an integer is written with: digits, and a minus perhaps before them. -/
theorem mem_integerChars {i : Int} {c : Char} (member : c ∈ integerChars i) :
    isDigit c = true ∨ c = '-' := by
  unfold integerChars at member
  split at member
  · rcases List.mem_cons.mp member with rfl | digit
    · exact .inr rfl
    · exact .inl (isDigit_of_mem_digitChars digit)
  · exact .inl (isDigit_of_mem_digitChars member)

theorem isDigit_of_mem_tail {i : Int} {c : Char} (member : c ∈ (integerChars i).tail) :
    isDigit c = true := by
  unfold integerChars at member
  split at member
  · exact isDigit_of_mem_digitChars member
  · exact isDigit_of_mem_digitChars (List.mem_of_mem_tail member)

theorem not_mem_integerChars {c : Char} (digit : isDigit c = false) (minus : c ≠ '-') (i : Int) :
    c ∉ integerChars i := by
  intro member
  rcases mem_integerChars member with found | found
  · exact Bool.false_ne_true (digit.symm.trans found)
  · exact minus found

theorem signed_integerChars (i : Int) :
    signed (integerChars i) = (decide (i < 0), digitChars i.natAbs) := by
  unfold integerChars
  split
  case _ negative => simp [signed, negative]
  case _ positive =>
    cases shape : digitChars i.natAbs with
    | nil => exact absurd shape (Json.digitChars_ne_nil _)
    | cons c rest =>
        have first : isDigit c = true := isDigit_of_mem_digitChars (shape ▸ List.mem_cons_self)
        have minus : c ≠ '-' := by
          rintro rfl
          cases first
        have plus : c ≠ '+' := by
          rintro rfl
          cases first
        unfold signed
        split <;> simp_all

/-- An integer that fits a signed word. -/
def IsSigned (i : Int) : Prop := -(half64 : Int) ≤ i ∧ i < half64

theorem decimalInteger?_integerChars {i : Int} (fits : IsSigned i) :
    decimalInteger? (integerChars i) = some i := by
  have value : (if decide (i < 0) = true then -((i.natAbs : Nat) : Int) else i.natAbs) = i := by
    simp only [decide_eq_true_eq]
    split <;> omega
  simp only [decimalInteger?, signed_integerChars, wholeDigits?_digitChars,
    Json.numberIn?_digitChars, Option.bind_eq_bind, Option.bind_some, value, inRange?]
  exact if_pos fits

theorem markedInteger?_integerChars (i : Int) : markedInteger? (integerChars i) = none := by
  have unmarked {mark : List Char} {c : Char} (member : c ∈ mark) (digit : isDigit c = false)
      (minus : c ≠ '-') : mark.isPrefixOf (integerChars i) = false := by
    rw [Bool.eq_false_iff]
    intro starts
    exact not_mem_integerChars digit minus i ((List.isPrefixOf_iff_prefix.mp starts).subset member)
  have hexadecimal : ['0', 'x'].isPrefixOf (integerChars i) = false :=
    unmarked (c := 'x') (by simp) rfl (by decide)
  have octal : ['0', 'o'].isPrefixOf (integerChars i) = false :=
    unmarked (c := 'o') (by simp) rfl (by decide)
  have binary : ['0', 'b'].isPrefixOf (integerChars i) = false :=
    unmarked (c := 'b') (by simp) rfl (by decide)
  simp [markedInteger?, marks, hexadecimal, octal, binary]

/-- There is nothing but digits after the first character of an integer, so no date and no time
begins like one. -/
theorem after?_drop_integerChars {c : Char} (digit : isDigit c = false) (i : Int) (count : Nat) :
    after? c ((integerChars i).drop (count + 1)) = none := by
  cases shape : (integerChars i).drop (count + 1) with
  | nil => rfl
  | cons d rest =>
      have member : d ∈ (integerChars i).tail := by
        have inside : d ∈ (integerChars i).tail.drop count := by
          rw [List.drop_tail, shape]
          exact List.mem_cons_self
        exact List.mem_of_mem_drop inside
      have apart : d ≠ c := by
        rintro rfl
        exact Bool.false_ne_true (digit.symm.trans (isDigit_of_mem_tail member))
      simp [after?, apart]

theorem digits?_rest {count n : Nat} {cs rest : List Char}
    (read : digits? count cs = some (n, rest)) : rest = cs.drop count := by
  unfold digits? at read
  dsimp only at read
  split at read
  · obtain ⟨m, -, same⟩ := Option.map_eq_some_iff.mp read
    exact (congrArg Prod.snd same).symm
  · cases read

theorem isDateOrTime_integerChars (i : Int) : isDateOrTime (integerChars i) = false := by
  have date : afterDate? (integerChars i) = none := by
    cases read : digits? 4 (integerChars i) with
    | none => simp [afterDate?, read]
    | some first =>
        obtain ⟨year, rest⟩ := first
        obtain rfl := digits?_rest read
        simp [afterDate?, read, after?_drop_integerChars (c := '-') rfl i 3]
  have time : afterTime? (integerChars i) = none := by
    cases read : digits? 2 (integerChars i) with
    | none => simp [afterTime?, read]
    | some first =>
        obtain ⟨hour, rest⟩ := first
        obtain rfl := digits?_rest read
        simp [afterTime?, read, after?_drop_integerChars (c := ':') rfl i 1]
  simp [isDateOrTime, date, time]

theorem settingOfWord?_integerChars {i : Int} (fits : IsSigned i) :
    settingOfWord? (integerChars i) = some (.integer i) := by
  have unlike {word : List Char} {c : Char} (member : c ∈ word) (digit : isDigit c = false)
      (minus : c ≠ '-') : integerChars i ≠ word := by
    rintro rfl
    exact not_mem_integerChars digit minus i member
  have notTrue : integerChars i ≠ "true".toList := unlike (c := 't') (by decide) rfl (by decide)
  have notFalse : integerChars i ≠ "false".toList := unlike (c := 'f') (by decide) rfl (by decide)
  have digits {word : List Char} {c : Char} (member : c ∈ word) (digit : isDigit c = false) :
      digitChars i.natAbs ≠ word := by
    rintro rfl
    exact Bool.false_ne_true (digit.symm.trans (isDigit_of_mem_digitChars member))
  have special : isSpecialNumber (integerChars i) = false := by
    have notInf : digitChars i.natAbs ≠ ['i', 'n', 'f'] := digits (c := 'i') (by decide) rfl
    have notNan : digitChars i.natAbs ≠ ['n', 'a', 'n'] := digits (c := 'n') (by decide) rfl
    simp [isSpecialNumber, signed_integerChars, notInf, notNan]
  rw [settingOfWord?, if_neg notTrue, if_neg notFalse]
  simp [special, isDateOrTime_integerChars, markedInteger?_integerChars,
    decimalInteger?_integerChars fits]

/-! ## Values -/

/-- The setting that a value is read back as. -/
def Literal.setting : Literal → Setting
  | .text s => .text s
  | .integer i => .integer i
  | .flag b => .flag b

/-- An integer has to fit a signed word. -/
def Literal.Fits : Literal → Prop
  | .integer i => IsSigned i
  | _ => True

theorem isBare_of_isDigit {c : Char} (digit : isDigit c = true) : isBare c = true := by
  have alphanumeric : c.isDigit = true := by
    simpa [isDigit, Char.isDigit, Char.le_def, UInt32.le_iff_toNat_le] using digit
  simp [isBare, Char.isAlphanum, alphanumeric]

theorem endsWord_of_isBare {c : Char} (bare : isBare c = true) : endsWord c = false := by
  rw [Bool.eq_false_iff]
  intro ends
  simp only [endsWord, isBlank, Bool.or_eq_true, beq_iff_eq, or_assoc] at ends
  rcases ends with rfl | rfl | rfl | rfl | rfl | rfl | rfl | rfl <;> cases bare

@[simp] theorem Literal.fits_text (s : String) : (Literal.text s).Fits := trivial

@[simp] theorem Literal.fits_flag (b : Bool) : (Literal.flag b).Fits := trivial

theorem wordSetting_of_word {word : List Char} {setting : Setting} (rest : List Char)
    (bare : ∀ c ∈ word, isBare c = true) (stands : settingOfWord? word = some setting) :
    wordSetting (word ++ '\n' :: rest) = some (setting, '\n' :: rest) := by
  have inside : ∀ c ∈ word, (!endsWord c) = true := fun c member => by
    simp [endsWord_of_isBare (bare c member)]
  have ends : ∀ c ∈ ('\n' :: rest).head?, (!endsWord c) = false := fun c first => by
    cases first
    rfl
  obtain ⟨taken, left⟩ := Json.takeWhile_append_of_ends inside ends
  simp [wordSetting, taken, left, stands]

theorem head_stringChars (cs : List Char) :
    ∃ quote more, stringChars cs = quote :: more ∧ (quote = '"' ∨ quote = '\'') := by
  unfold stringChars
  dsimp only
  split
  · exact ⟨'"', _, rfl, .inl rfl⟩
  split
  · exact ⟨'\'', _, rfl, .inr rfl⟩
  split
  · exact ⟨'"', _, rfl, .inl rfl⟩
  split
  · exact ⟨'\'', _, rfl, .inr rfl⟩
  split
  · exact ⟨'"', _, rfl, .inl rfl⟩
  · exact ⟨'"', _, rfl, .inl rfl⟩

theorem value_string (fuel room : Nat) {quote : Char} {cs read after : List Char}
    (opens : quote = '"' ∨ quote = '\'') (found : string (quote :: cs) = some (read, after)) :
    value (fuel + 1) room (quote :: cs) = some (.text (String.ofList read), after) := by
  rcases opens with rfl | rfl
  all_goals
    rw [value]
    · simp [found]
    all_goals simp

theorem value_word (fuel room : Nat) {word : List Char} {setting : Setting} (rest : List Char)
    (bare : ∀ c ∈ word, isBare c = true) (stands : settingOfWord? word = some setting) :
    value (fuel + 1) room (word ++ '\n' :: rest) = some (setting, '\n' :: rest) := by
  have read := wordSetting_of_word rest bare stands
  have given : word ≠ [] := by
    rintro rfl
    cases stands
  obtain ⟨c, more, rfl⟩ := List.exists_cons_of_ne_nil given
  -- a value that is a word begins with nothing that another value begins with
  have unlike {opening : Char} (other : isBare opening = false) : c ≠ opening := by
    rintro rfl
    exact Bool.false_ne_true (other.symm.trans (bare c List.mem_cons_self))
  have list : c ≠ '[' := unlike rfl
  have table : c ≠ '\x7b' := unlike rfl
  have double : c ≠ '"' := unlike rfl
  have single : c ≠ '\'' := unlike rfl
  rw [List.cons_append] at read ⊢
  rw [value]
  · simpa using read
  all_goals simp [list, table, double, single]

theorem value_chars {literal : Literal} (fits : literal.Fits) (fuel room : Nat)
    (rest : List Char) : value (fuel + 1) room (literal.chars ++ '\n' :: rest) =
      some (literal.setting, '\n' :: rest) := by
  cases literal with
  | text s =>
      obtain ⟨quote, more, shape, opens⟩ := head_stringChars s.toList
      have read : string (stringChars s.toList ++ '\n' :: rest) = some (s.toList, '\n' :: rest) :=
        string_stringChars s.toList (by simp) (by simp)
      rw [Literal.chars, shape, List.cons_append] at *
      rw [value_string fuel room opens read, String.ofList_toList]
      rfl
  | integer i =>
      refine value_word fuel room rest (fun c member => ?_) (settingOfWord?_integerChars fits)
      rcases mem_integerChars member with digit | rfl
      · exact isBare_of_isDigit digit
      · rfl
  | flag b =>
      cases b with
      | true => exact value_word fuel room rest (List.all_eq_true.mp rfl) rfl
      | false => exact value_word fuel room rest (List.all_eq_true.mp rfl) rfl

end NetConsole.Toml
