import NetConsole.Proofs.Json.Layout

/-!
# Reading back what was written

Scanning the text of a value in any layout comes to a tree that spells the value, and leaves what
follows the text. So a value whose numbers are integers and whose members ascend is read back as it
was, unless it is nested too deeply.
-/

set_option autoImplicit false

namespace NetConsole.Json

open Decimal

/-! ## Keys -/

theorem escapeChar_digit {c : Char} (digit : isDigit c = true) : escapeChar c = [c] := by
  have bounds : 48 ≤ c.toNat ∧ c.toNat ≤ 57 := by
    simpa [isDigit, Char.le_def, UInt32.le_iff_toNat_le] using digit
  have apart : ∀ d : Char, d.toNat < 48 ∨ 57 < d.toNat → c ≠ d := by
    intro d far same
    subst same
    omega
  rw [escapeChar, if_neg (apart '"' (by decide)), if_neg (apart '\\' (by decide)),
    if_neg (apart '\n' (by decide)), if_neg (apart '\r' (by decide)),
    if_neg (apart '\t' (by decide)), if_neg (by omega), if_neg (by omega), if_neg (by omega)]

theorem escaped_digits {digits : List Char} (all : ∀ c ∈ digits, isDigit c = true) :
    digits.flatMap escapeChar = digits := by
  induction digits with
  | nil => rfl
  | cons c rest ih =>
      obtain ⟨first, later⟩ := List.forall_mem_cons.mp all
      rw [List.flatMap_cons, escapeChar_digit first, ih later]
      rfl

theorem toList_toString (n : Nat) : (toString n).toList = digitChars n := Nat.toList_repr

theorem scanKey_scanString (cs : List Char) :
    (scanKey cs).1.text = (scanString cs).1 ∧ (scanKey cs).2 = (scanString cs).2 := by
  unfold scanKey
  dsimp only
  split
  · split
    · split <;> exact ⟨rfl, rfl⟩
    · exact ⟨rfl, rfl⟩
  · exact ⟨rfl, rfl⟩

theorem endsNumber_quote (rest : List Char) : EndsNumber ('"' :: rest) := by
  intro c same
  cases same
  decide

theorem numeral_digitChars {n : Nat} (fits : IsWord n) :
    Numeral.value ⟨false, digitChars n, none, none⟩ = .ok (.integer n) := by
  have within : n ≤ maxWord := by
    have high := fits.2
    simp only [maxWord, words64] at high ⊢
    omega
  simp only [Numeral.value, digitsValue_digitChars]
  exact if_pos ⟨rfl, rfl, within, .inl rfl⟩

theorem scanKey_numeral {n : Nat} (fits : IsWord n) (rest : List Char) :
    (scanKey (digitChars n ++ '"' :: rest)).1.numeral = .ok (.integer n) ∧
      (scanKey (digitChars n ++ '"' :: rest)).1.closed = true := by
  have lexed := lexNumber_digitChars n (endsNumber_quote rest)
  have value := numeral_digitChars fits
  cases digits : digitChars n with
  | nil => exact absurd digits (digitChars_ne_nil n)
  | cons d more =>
      have digit : isDigit d = true :=
        isDigit_of_mem_digitChars (n := n) (by rw [digits]; exact List.mem_cons_self)
      rw [digits] at lexed value
      unfold scanKey
      rw [List.cons_append] at lexed ⊢
      simp only [digit, Bool.true_or, if_true, lexed, value]
      exact ⟨trivial, rfl⟩

theorem scanKey_quoted (name : String) (rest : List Char) :
    ∃ key : Key, scanKey (name.toList.flatMap escapeChar ++ '"' :: rest) = (key, some rest) ∧
      key.Spells name := by
  obtain ⟨text, after⟩ := scanKey_scanString (name.toList.flatMap escapeChar ++ '"' :: rest)
  rw [scanString_quoted name rest] at text after
  refine ⟨_, Prod.ext rfl after, text, ?_⟩
  intro n named fits
  rw [named, toList_toString, escaped_digits fun c member => isDigit_of_mem_digitChars member]
  exact scanKey_numeral fits rest

/-! ## Situations of the scanner -/

theorem scanItems_first {fuel : Nat} {cs rest : List Char} {c : Char}
    (start : skipSpace cs = c :: rest) (begins : Begins c) :
    scanItems (fuel + 1) true cs = scanItem fuel (c :: rest) := by
  unfold scanItems
  rw [start]
  split
  · next nothing => cases nothing
  · next same =>
      cases same
      exact absurd rfl begins.2.1
  · next same =>
      cases same
      rfl

theorem scanItems_comma {fuel : Nat} {cs rest : List Char} {c : Char}
    (start : skipSpace cs = c :: rest) (begins : Begins c) :
    scanItems (fuel + 1) false (',' :: cs) = scanItem fuel (c :: rest) := by
  obtain ⟨-, bracket, -⟩ := begins
  simp [scanItems, skipSpace_cons (show isSpace ',' = false from rfl), start, bracket]

theorem scanItems_closed {fuel : Nat} {cs rest : List Char} (first : Bool)
    (start : skipSpace cs = ']' :: rest) :
    scanItems (fuel + 1) first cs = ([], .closed, some rest) := by
  simp [scanItems, start]

theorem scanItem_of_value {fuel : Nat} {cs rest after : List Char} {item : Tree}
    {items : List Tree} (one : scanValue fuel cs = (item, some rest))
    (more : scanItems fuel false rest = (items, .closed, some after)) :
    scanItem (fuel + 1) cs = (item :: items, .closed, some after) := by
  rw [scanItem, one]
  dsimp only
  rw [more]

theorem scanMembers_first {fuel : Nat} {cs rest : List Char} (start : skipSpace cs = '"' :: rest) :
    scanMembers (fuel + 1) true cs = scanMember fuel rest := by
  simp [scanMembers, start]

theorem scanMembers_comma {fuel : Nat} {cs rest : List Char} (start : skipSpace cs = '"' :: rest) :
    scanMembers (fuel + 1) false (',' :: cs) = scanMember fuel rest := by
  simp [scanMembers, skipSpace_cons (show isSpace ',' = false from rfl), start]

theorem scanMembers_closed {fuel : Nat} {cs rest : List Char} (first : Bool)
    (start : skipSpace cs = '\x7d' :: rest) :
    scanMembers (fuel + 1) first cs = ([], .closed, some rest) := by
  simp [scanMembers, start]

theorem scanMember_of_value {fuel : Nat} {cs value rest after : List Char} {key : Key} {tree : Tree}
    {members : List (Key × Tree)} (named : scanKey cs = (key, some (':' :: value)))
    (one : scanValue fuel value = (tree, some rest))
    (more : scanMembers fuel false rest = (members, .closed, some after)) :
    scanMember (fuel + 1) cs = ((key, tree) :: members, .closed, some after) := by
  have colon : skipSpace (':' :: value) = ':' :: value := skipSpace_cons rfl value
  simp only [scanMember, named, colon, one, more]

/-! ## Values -/

theorem endsNumber_cons {c : Char} (rest : List Char)
    (ends : isDigit c = false ∧ c ≠ '.' ∧ c ≠ 'e' ∧ c ≠ 'E') : EndsNumber (c :: rest) := by
  intro other same
  cases same
  exact ends

theorem endsNumber_append {blanks rest : List Char} (all : ∀ c ∈ blanks, isSpace c = true)
    (ends : EndsNumber rest) : EndsNumber (blanks ++ rest) := by
  cases blanks with
  | nil => exact ends
  | cons c more =>
      have space := all c List.mem_cons_self
      refine endsNumber_cons _ ?_
      simp only [isSpace, Bool.or_eq_true, beq_iff_eq] at space
      rcases space with ((rfl | rfl) | rfl) | rfl <;> decide

theorem scanValue_quote (fuel : Nat) (rest : List Char) :
    scanValue (fuel + 1) ('"' :: rest) =
      (.string (scanString rest).1, (scanString rest).2) := rfl

theorem scanValue_bracket (fuel : Nat) (rest : List Char) :
    scanValue (fuel + 1) ('[' :: rest) =
      (.array (scanItems fuel true rest).1 (scanItems fuel true rest).2.1,
        (scanItems fuel true rest).2.2) := rfl

theorem scanValue_brace (fuel : Nat) (rest : List Char) :
    scanValue (fuel + 1) ('\x7b' :: rest) =
      (.object (scanMembers fuel true rest).1 (scanMembers fuel true rest).2.1,
        (scanMembers fuel true rest).2.2) := rfl

theorem scanValue_string (fuel : Nat) (s : String) (tail : List Char) :
    scanValue (fuel + 1) (quote s ++ tail) =
      (.string { read := .ok s, skip := none }, some tail) := by
  have opened : quote s ++ tail = '"' :: (s.toList.flatMap escapeChar ++ '"' :: tail) := by
    simp only [quote, List.cons_append, List.append_assoc, List.nil_append]
  rw [opened, scanValue_quote, scanString_quoted]

theorem scanValue_number {fuel : Nat} {c : Char} {rest : List Char}
    (starts : c = '-' ∨ isDigit c = true) :
    scanValue (fuel + 1) (c :: rest) =
      (.number (scanNumber (c :: rest)).1, (scanNumber (c :: rest)).2) := by
  have visible : isSpace c = false := by
    rcases starts with rfl | digit
    · rfl
    · exact (begins_of_isDigit digit).1
  have other : ∀ d : Char, d ≠ '-' → isDigit d = false → c ≠ d := by
    intro d notMinus notDigit same
    subst same
    rcases starts with minus | digit
    · exact notMinus minus
    · rw [digit] at notDigit
      cases notDigit
  rw [scanValue, skipSpace_cons visible]
  split
  · next nothing => cases nothing
  · next same => exact absurd (List.cons.inj same).1 (other 'n' (by decide) rfl)
  · next same => exact absurd (List.cons.inj same).1 (other 't' (by decide) rfl)
  · next same => exact absurd (List.cons.inj same).1 (other 'f' (by decide) rfl)
  · next same => exact absurd (List.cons.inj same).1 (other '"' (by decide) rfl)
  · next same => exact absurd (List.cons.inj same).1 (other '[' (by decide) rfl)
  · next same => exact absurd (List.cons.inj same).1 (other '\x7b' (by decide) rfl)
  · next same =>
      cases same
      rw [if_pos starts]

theorem scanValue_integer {i : Int} (fits : IsWord i) (fuel : Nat) {tail : List Char}
    (ends : EndsNumber tail) :
    scanValue (fuel + 1) (integerChars i ++ tail) =
      (.number { read := .ok (.integer i), skip := none }, some tail) := by
  have scanned := scanNumber_integerChars fits ends
  obtain ⟨c, rest, text, starts⟩ : ∃ c rest, integerChars i = c :: rest ∧
      (c = '-' ∨ isDigit c = true) := by
    by_cases negative : i < 0
    · exact ⟨'-', _, if_pos negative, .inl rfl⟩
    · rw [integerChars, if_neg negative]
      cases digits : digitChars i.natAbs with
      | nil => exact absurd digits (digitChars_ne_nil _)
      | cons d more =>
          have member : d ∈ digitChars i.natAbs := by
            rw [digits]
            exact List.mem_cons_self
          exact ⟨d, more, rfl, .inr (isDigit_of_mem_digitChars member)⟩
  rw [text, List.cons_append] at scanned ⊢
  rw [scanValue_number starts, scanned]

namespace Layout

variable (layout : Layout)

/-- The text of a value in a layout, at any level, is scanned as a tree that spells the value; what
follows is left. -/
def Scans (value : Json) : Prop :=
  ∀ (level fuel : Nat) (tail : List Char), EndsNumber tail →
    2 * (layout.chars level value).length ≤ fuel →
      ∃ tree, scanValue fuel (layout.chars level value ++ tail) = (tree, some tail) ∧
        tree.Spells value

theorem endsNumber_moreItems (level : Nat) (rest : List Json) {after : List Char}
    (ends : EndsNumber after) : EndsNumber (layout.moreItems level rest ++ after) := by
  cases rest with
  | nil => exact ends
  | cons item rest => exact endsNumber_cons _ (by decide)

theorem endsNumber_moreMembers (level : Nat) (rest : List (String × Json)) {after : List Char}
    (ends : EndsNumber after) : EndsNumber (layout.moreMembers level rest ++ after) := by
  cases rest with
  | nil => exact ends
  | cons member rest => exact endsNumber_cons _ (by decide)

/-- An item and those after it, up to the closing bracket. -/
theorem scanItem_chars {level : Nat} {item : Json} {rest : List Json} {after tail : List Char}
    {fuel : Nat} (ends : EndsNumber (layout.moreItems level rest ++ after))
    (scans : layout.Scans item)
    (more : ∃ trees, scanItems fuel false (layout.moreItems level rest ++ after) =
      (trees, .closed, some tail) ∧ List.Forall₂ Tree.Spells trees rest)
    (enough : 2 * (layout.chars level item).length ≤ fuel) :
    ∃ trees, scanItem (fuel + 1)
      (layout.chars level item ++ (layout.moreItems level rest ++ after)) =
        (trees, .closed, some tail) ∧ List.Forall₂ Tree.Spells trees (item :: rest) := by
  obtain ⟨trees, scanned, spell⟩ := more
  obtain ⟨tree, one, spells⟩ := scans level fuel _ ends enough
  exact ⟨tree :: trees, scanItem_of_value one scanned, .cons spells spell⟩

theorem scanItems_more {level : Nat} {rest : List Json} {after tail : List Char}
    (closes : skipSpace after = ']' :: tail) (ends : EndsNumber after)
    (each : ∀ item ∈ rest, Whole item ∧ layout.Scans item) {fuel : Nat}
    (enough : 2 * (layout.moreItems level rest).length + 1 ≤ fuel) :
    ∃ trees, scanItems fuel false (layout.moreItems level rest ++ after) =
      (trees, .closed, some tail) ∧ List.Forall₂ Tree.Spells trees rest := by
  induction rest generalizing fuel with
  | nil =>
      obtain ⟨fuel, rfl⟩ : ∃ less, fuel = less + 1 := ⟨fuel - 1, by omega⟩
      exact ⟨[], scanItems_closed false closes, .nil⟩
  | cons item rest ih =>
      obtain ⟨⟨whole, scans⟩, later⟩ := List.forall_mem_cons.mp each
      simp only [moreItems, List.length_cons, List.length_append] at enough
      obtain ⟨fuel, rfl⟩ : ∃ less, fuel = less + 2 := ⟨fuel - 2, by omega⟩
      obtain ⟨c, chars, text, begins⟩ := layout.chars_cons level whole
      have more := ih later
        (show 2 * (layout.moreItems level rest).length + 1 ≤ fuel by omega)
      have goes := layout.scanItem_chars (layout.endsNumber_moreItems level rest ends) scans more
        (by omega)
      have start : skipSpace (layout.line level ++ layout.chars level item ++
          (layout.moreItems level rest ++ after)) =
          layout.chars level item ++ (layout.moreItems level rest ++ after) := by
        rw [List.append_assoc, skipSpace_append (layout.line_space level), text, List.cons_append,
          skipSpace_cons begins.1]
      have split : layout.moreItems level (item :: rest) ++ after =
          ',' :: (layout.line level ++ layout.chars level item ++
            (layout.moreItems level rest ++ after)) := by
        simp only [moreItems, List.cons_append, List.append_assoc]
      rw [split]
      rw [text, List.cons_append] at start goes
      rw [scanItems_comma (by rw [text]; exact start) begins]
      exact goes

theorem scanMember_chars {level : Nat} (key : String) {value : Json}
    {rest : List (String × Json)} {after tail : List Char} {fuel : Nat}
    (ends : EndsNumber (layout.moreMembers level rest ++ after)) (scans : layout.Scans value)
    (more : ∃ trees, scanMembers fuel false (layout.moreMembers level rest ++ after) =
      (trees, .closed, some tail) ∧ List.Forall₂ SpellsMember trees rest)
    (enough : 2 * (layout.chars level value).length ≤ fuel) :
    ∃ trees, scanMember (fuel + 1) (key.toList.flatMap escapeChar ++ '"' :: ':' :: (layout.gap ++
      (layout.chars level value ++ (layout.moreMembers level rest ++ after)))) =
        (trees, .closed, some tail) ∧ List.Forall₂ SpellsMember trees ((key, value) :: rest) := by
  obtain ⟨trees, scanned, spell⟩ := more
  obtain ⟨tree, one, spells⟩ := scans level fuel _ ends enough
  obtain ⟨scannedKey, named, spellsKey⟩ := scanKey_quoted key (':' :: (layout.gap ++
    (layout.chars level value ++ (layout.moreMembers level rest ++ after))))
  have valued : scanValue fuel (layout.gap ++
      (layout.chars level value ++ (layout.moreMembers level rest ++ after))) =
        (tree, some (layout.moreMembers level rest ++ after)) := by
    rw [← scanValue_skipSpace, skipSpace_append layout.gap_space, scanValue_skipSpace]
    exact one
  exact ⟨(scannedKey, tree) :: trees, scanMember_of_value named valued scanned,
    .cons ⟨spellsKey, spells⟩ spell⟩

theorem scanMembers_more {level : Nat} {rest : List (String × Json)} {after tail : List Char}
    (closes : skipSpace after = '\x7d' :: tail) (ends : EndsNumber after)
    (each : ∀ member ∈ rest, layout.Scans member.2) {fuel : Nat}
    (enough : 2 * (layout.moreMembers level rest).length + 1 ≤ fuel) :
    ∃ trees, scanMembers fuel false (layout.moreMembers level rest ++ after) =
      (trees, .closed, some tail) ∧ List.Forall₂ SpellsMember trees rest := by
  induction rest generalizing fuel with
  | nil =>
      obtain ⟨fuel, rfl⟩ : ∃ less, fuel = less + 1 := ⟨fuel - 1, by omega⟩
      exact ⟨[], scanMembers_closed false closes, .nil⟩
  | cons member rest ih =>
      obtain ⟨key, value⟩ := member
      obtain ⟨scans, later⟩ := List.forall_mem_cons.mp each
      simp only [moreMembers, List.length_cons, List.length_append] at enough
      obtain ⟨fuel, rfl⟩ : ∃ less, fuel = less + 2 := ⟨fuel - 2, by omega⟩
      have more := ih later
        (show 2 * (layout.moreMembers level rest).length + 1 ≤ fuel by omega)
      have goes := layout.scanMember_chars key (layout.endsNumber_moreMembers level rest ends)
        scans more (show 2 * (layout.chars level value).length ≤ fuel by omega)
      have start : skipSpace (layout.line level ++ ('"' :: (key.toList.flatMap escapeChar ++ '"' ::
          ':' :: (layout.gap ++ (layout.chars level value ++
            (layout.moreMembers level rest ++ after)))))) =
          '"' :: (key.toList.flatMap escapeChar ++ '"' :: ':' :: (layout.gap ++
            (layout.chars level value ++ (layout.moreMembers level rest ++ after)))) := by
        rw [skipSpace_append (layout.line_space level), skipSpace_cons rfl]
      have split : layout.moreMembers level ((key, value) :: rest) ++ after =
          ',' :: (layout.line level ++ ('"' :: (key.toList.flatMap escapeChar ++ '"' ::
            ':' :: (layout.gap ++ (layout.chars level value ++
              (layout.moreMembers level rest ++ after)))))) := by
        simp only [moreMembers, quote, List.cons_append, List.append_assoc, List.nil_append]
      rw [split, scanMembers_comma start]
      exact goes

private theorem scans_array {items : List Json}
    (each : ∀ item ∈ items, Whole item ∧ layout.Scans item) : layout.Scans (.array items) := by
  intro level fuel tail _ enough
  cases items with
  | nil =>
      obtain ⟨fuel, rfl⟩ : ∃ less, fuel = less + 2 := ⟨fuel - 2, by simp [chars] at enough; omega⟩
      exact ⟨.array [] .closed, rfl, .array .nil⟩
  | cons item rest =>
      obtain ⟨⟨whole, scans⟩, later⟩ := List.forall_mem_cons.mp each
      simp only [chars, List.length_cons, List.length_append] at enough
      obtain ⟨fuel, rfl⟩ : ∃ less, fuel = less + 3 := ⟨fuel - 3, by omega⟩
      have closes : skipSpace (layout.line level ++ ']' :: tail) = ']' :: tail := by
        rw [skipSpace_append (layout.line_space level), skipSpace_cons rfl]
      have ends : EndsNumber (layout.line level ++ ']' :: tail) :=
        endsNumber_append (layout.line_space level) (endsNumber_cons _ (by decide))
      have more := layout.scanItems_more closes ends later
        (show 2 * (layout.moreItems (level + 1) rest).length + 1 ≤ fuel by omega)
      obtain ⟨trees, scanned, spell⟩ := layout.scanItem_chars
        (layout.endsNumber_moreItems (level + 1) rest ends) scans more
        (show 2 * (layout.chars (level + 1) item).length ≤ fuel by omega)
      obtain ⟨c, chars, text, begins⟩ := layout.chars_cons (level + 1) whole
      have start : skipSpace (layout.line (level + 1) ++ (layout.chars (level + 1) item ++
          (layout.moreItems (level + 1) rest ++ (layout.line level ++ ']' :: tail)))) =
          layout.chars (level + 1) item ++
            (layout.moreItems (level + 1) rest ++ (layout.line level ++ ']' :: tail)) := by
        rw [skipSpace_append (layout.line_space (level + 1)), text, List.cons_append,
          skipSpace_cons begins.1]
      have split : layout.chars level (.array (item :: rest)) ++ tail =
          '[' :: (layout.line (level + 1) ++ (layout.chars (level + 1) item ++
            (layout.moreItems (level + 1) rest ++ (layout.line level ++ ']' :: tail)))) := by
        simp only [Layout.chars, List.cons_append, List.append_assoc, List.nil_append]
      refine ⟨.array trees .closed, ?_, .array spell⟩
      rw [text, List.cons_append] at start scanned
      rw [split, scanValue_bracket, text, List.cons_append, scanItems_first start begins, scanned]

private theorem scans_object {members : List (String × Json)}
    (each : ∀ member ∈ members, layout.Scans member.2) : layout.Scans (.object members) := by
  intro level fuel tail _ enough
  cases members with
  | nil =>
      obtain ⟨fuel, rfl⟩ : ∃ less, fuel = less + 2 := ⟨fuel - 2, by simp [chars] at enough; omega⟩
      exact ⟨.object [] .closed, rfl, Tree.spells_object.mpr .nil⟩
  | cons member rest =>
      obtain ⟨key, value⟩ := member
      obtain ⟨scans, later⟩ := List.forall_mem_cons.mp each
      simp only [chars, List.length_cons, List.length_append] at enough
      obtain ⟨fuel, rfl⟩ : ∃ less, fuel = less + 3 := ⟨fuel - 3, by omega⟩
      have closes : skipSpace (layout.line level ++ '\x7d' :: tail) = '\x7d' :: tail := by
        rw [skipSpace_append (layout.line_space level), skipSpace_cons rfl]
      have ends : EndsNumber (layout.line level ++ '\x7d' :: tail) :=
        endsNumber_append (layout.line_space level) (endsNumber_cons _ (by decide))
      have more := layout.scanMembers_more closes ends later
        (show 2 * (layout.moreMembers (level + 1) rest).length + 1 ≤ fuel by omega)
      obtain ⟨trees, scanned, spell⟩ := layout.scanMember_chars key
        (layout.endsNumber_moreMembers (level + 1) rest ends) scans more
        (show 2 * (layout.chars (level + 1) value).length ≤ fuel by omega)
      have start : skipSpace (layout.line (level + 1) ++ ('"' :: (key.toList.flatMap escapeChar ++
          '"' :: ':' :: (layout.gap ++ (layout.chars (level + 1) value ++
            (layout.moreMembers (level + 1) rest ++ (layout.line level ++ '\x7d' :: tail))))))) =
          '"' :: (key.toList.flatMap escapeChar ++ '"' :: ':' :: (layout.gap ++
            (layout.chars (level + 1) value ++
              (layout.moreMembers (level + 1) rest ++ (layout.line level ++ '\x7d' :: tail))))) := by
        rw [skipSpace_append (layout.line_space (level + 1)), skipSpace_cons rfl]
      have split : layout.chars level (.object ((key, value) :: rest)) ++ tail =
          '\x7b' :: (layout.line (level + 1) ++ ('"' :: (key.toList.flatMap escapeChar ++
          '"' :: ':' :: (layout.gap ++ (layout.chars (level + 1) value ++
            (layout.moreMembers (level + 1) rest ++
              (layout.line level ++ '\x7d' :: tail))))))) := by
        simp only [Layout.chars, quote, List.cons_append, List.append_assoc, List.nil_append]
      refine ⟨.object trees .closed, ?_, Tree.spells_object.mpr spell⟩
      rw [split, scanValue_brace, scanMembers_first start, scanned]

/-- The text of every value whose numbers are integers is scanned as a tree that spells it. -/
theorem scans {value : Json} (integral : IsIntegral value) : layout.Scans value := by
  induction value using Json.induction with
  | null =>
      intro level fuel tail _ enough
      obtain ⟨fuel, rfl⟩ : ∃ less, fuel = less + 1 := ⟨fuel - 1, by simp at enough; omega⟩
      exact ⟨.null, by rw [layout.chars_null]; rfl, .null⟩
  | bool b =>
      intro level fuel tail _ enough
      cases b with
      | true =>
          obtain ⟨fuel, rfl⟩ : ∃ less, fuel = less + 1 := ⟨fuel - 1, by simp at enough; omega⟩
          exact ⟨.bool true, by rw [layout.chars_true]; rfl, .bool true⟩
      | false =>
          obtain ⟨fuel, rfl⟩ : ∃ less, fuel = less + 1 := ⟨fuel - 1, by simp at enough; omega⟩
          exact ⟨.bool false, by rw [layout.chars_false]; rfl, .bool false⟩
  | number n =>
      intro level fuel tail ends enough
      cases n with
      | fraction x => exact absurd integral id
      | integer i =>
          obtain ⟨c, rest, text, -⟩ := integerChars_cons i
          rw [layout.chars_number, numberChars] at enough ⊢
          obtain ⟨fuel, rfl⟩ : ∃ less, fuel = less + 1 :=
            ⟨fuel - 1, by rw [text, List.length_cons] at enough; omega⟩
          exact ⟨_, scanValue_integer integral fuel ends, .number (.integer i)⟩
  | string s =>
      intro level fuel tail _ enough
      rw [layout.chars_string] at enough ⊢
      obtain ⟨fuel, rfl⟩ : ∃ less, fuel = less + 1 :=
        ⟨fuel - 1, by rw [quote, List.length_cons] at enough; omega⟩
      exact ⟨_, scanValue_string fuel s tail, .string s⟩
  | array items ih =>
      have each := everyItem_iff.mp integral.2
      exact layout.scans_array fun item member =>
        ⟨(each item member).here, ih item member (each item member)⟩
  | object members ih =>
      have each := everyMember_iff.mp integral.2
      exact layout.scans_object fun member isMember =>
        ih member isMember (each member isMember)

end Layout

/-! ## Whole texts -/

theorem Layout.document_chars (layout : Layout) (level : Nat) {value : Json}
    (integral : IsIntegral value) :
    ∃ root, Document.ofChars (layout.chars level value) = { root, trailing := false } ∧
      root.Spells value := by
  obtain ⟨root, scanned, spells⟩ := layout.scans integral level
    (3 * (layout.chars level value).length + 3) [] (fun _ same => by cases same) (by omega)
  rw [List.append_nil] at scanned
  refine ⟨root, ?_, spells⟩
  rw [Document.ofChars, scanned]
  rfl

theorem document_pretty {value : Json} (integral : IsIntegral value) :
    ∃ root, Document.ofChars value.pretty.toList = { root, trailing := false } ∧
      root.Spells value := by
  rw [pretty, String.toList_ofList, prettyChars_eq]
  exact Layout.pretty.document_chars 0 integral

theorem document_compact {value : Json} (integral : IsIntegral value) :
    ∃ root, Document.ofChars value.compact.toList = { root, trailing := false } ∧
      root.Spells value := by
  rw [compact, String.toList_ofList, compactChars_eq value 0]
  exact Layout.compact.document_chars 0 integral

/-- A value whose numbers are integers is read back from its indented text, with its members
sorted, unless it is nested too deeply. -/
theorem parse_pretty {value : Json} (integral : IsIntegral value)
    (shallow : value.depth ≤ maxDepth) : parse value.pretty = .ok value.sorted := by
  obtain ⟨root, document, spells⟩ := document_pretty integral
  rw [parse, document, Document.read]
  simp only [Tree.value_of_spells spells shallow]
  rfl

theorem parse_compact {value : Json} (integral : IsIntegral value)
    (shallow : value.depth ≤ maxDepth) : parse value.compact = .ok value.sorted := by
  obtain ⟨root, document, spells⟩ := document_compact integral
  rw [parse, document, Document.read]
  simp only [Tree.value_of_spells spells shallow]
  rfl

end NetConsole.Json
