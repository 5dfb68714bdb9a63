import NetConsole.Proofs.Json.RoundTrip

/-!
# Values told by their texts

In the text of a value with integers only every other value can be told from it, fractions and all,
and so can what follows the value. Hence two values have the same text only if they are equal.
-/

set_option autoImplicit false

namespace NetConsole.Json

open Decimal

/-- A part of a text settles what it is the text of, and where that ends. -/
def Told {α : Type} (text : α → List Char) (item : α) : Prop :=
  ∀ (other : α) (rest after : List Char), EndsNumber rest → EndsNumber after →
    text item ++ rest = text other ++ after → item = other ∧ rest = after

theorem Told.prefixed {α : Type} {text : α → List Char} {item : α} (told : Told text item)
    (blanks : List Char) : Told (fun one => blanks ++ text one) item := by
  intro other rest after ends otherEnds same
  simp only [List.append_assoc, List.append_cancel_left_eq] at same
  exact told other rest after ends otherEnds same

/-! ## Strings -/

theorem quote_append_inj {s t : String} {rest after : List Char}
    (same : quote s ++ rest = quote t ++ after) : s = t ∧ rest = after := by
  have texts : s.toList.flatMap escapeChar ++ '"' :: rest =
      t.toList.flatMap escapeChar ++ '"' :: after := by
    simpa [quote] using same
  have scanned := scanString_quoted s rest
  simp only [texts, scanString_quoted, Prod.mk.injEq, Scan.mk.injEq, Except.ok.injEq,
    Option.some.injEq, and_true] at scanned
  exact ⟨scanned.1.symm, scanned.2.symm⟩

/-! ## Numbers -/

/-- At least one digit and nothing else. -/
def IsNumeral (digits : List Char) : Prop := digits ≠ [] ∧ ∀ c ∈ digits, isDigit c = true

theorem isNumeral_digitChars (n : Nat) : IsNumeral (digitChars n) :=
  ⟨digitChars_ne_nil n, fun _ member => isDigit_of_mem_digitChars member⟩

theorem IsNumeral.append {digits more : List Char} (numeral : IsNumeral digits)
    (all : ∀ c ∈ more, isDigit c = true) : IsNumeral (digits ++ more) := by
  refine ⟨by simp [numeral.1], fun c member => ?_⟩
  rcases List.mem_append.mp member with early | late
  · exact numeral.2 c early
  · exact all c late

theorem IsNumeral.take {digits : List Char} (numeral : IsNumeral digits) {count : Nat}
    (some : 0 < count) : IsNumeral (digits.take count) := by
  refine ⟨?_, fun c member => numeral.2 c (List.mem_of_mem_take member)⟩
  simp [numeral.1, some.ne']

theorem IsNumeral.ne_minus {digits : List Char} (numeral : IsNumeral digits)
    (rest after : List Char) : '-' :: rest ≠ digits ++ after := by
  obtain ⟨c, more, rfl⟩ := List.exists_cons_of_ne_nil numeral.1
  intro same
  obtain ⟨rfl, -⟩ := List.cons_eq_cons.mp same
  exact absurd (numeral.2 '-' List.mem_cons_self) (by decide)

/-- What goes on with a point or an exponent is no integer. -/
def GoesOn (cs : List Char) : Prop := cs.head? = some '.' ∨ cs.head? = some 'e'

theorem GoesOn.no_digit {cs rest : List Char} (goesOn : GoesOn cs) :
    ∀ c ∈ (cs ++ rest).head?, isDigit c = false := by
  intro c first
  rcases goesOn with point | exponent
  · obtain rfl : '.' = c := by simpa [point] using first
    rfl
  · obtain rfl : 'e' = c := by simpa [exponent] using first
    rfl

theorem GoesOn.not_endsNumber {cs rest : List Char} (goesOn : GoesOn cs) :
    ¬ EndsNumber (cs ++ rest) := by
  intro ends
  rcases goesOn with point | exponent
  · exact (ends '.' (by simp [point])).2.1 rfl
  · exact (ends 'e' (by simp [exponent])).2.2.1 rfl

/-- The text of a double has digits before its point or exponent. -/
theorem decimalChars_eq (decimal : Scaled) :
    ∃ digits more, decimalChars decimal = digits ++ more ∧ IsNumeral digits ∧ GoesOn more := by
  have numeral := isNumeral_digitChars decimal.digits
  unfold decimalChars
  dsimp only
  split
  case isTrue =>
    refine ⟨_, ['.', '0'], rfl, numeral.append fun c member => ?_, .inl rfl⟩
    rw [List.eq_of_mem_replicate member]
    rfl
  case isFalse =>
    split
    case isTrue positional =>
      exact ⟨_, _, rfl, numeral.take (by omega), .inl rfl⟩
    case isFalse =>
      split
      case isTrue =>
        exact ⟨['0'], _, rfl, ⟨List.cons_ne_nil _ _, by simp [isDigit]⟩, .inl rfl⟩
      case isFalse =>
        refine ⟨(digitChars decimal.digits).take 1, _, List.append_assoc _ _ _,
          numeral.take Nat.one_pos, ?_⟩
        split
        · exact .inr rfl
        · exact .inl rfl

theorem digits_append_inj {digits others rest after : List Char}
    (all : ∀ c ∈ digits, isDigit c = true) (otherAll : ∀ c ∈ others, isDigit c = true)
    (ends : ∀ c ∈ rest.head?, isDigit c = false) (otherEnds : ∀ c ∈ after.head?, isDigit c = false)
    (same : digits ++ rest = others ++ after) : digits = others ∧ rest = after := by
  obtain ⟨taken, left⟩ := takeWhile_append_of_ends all ends
  obtain ⟨otherTaken, otherLeft⟩ := takeWhile_append_of_ends otherAll otherEnds
  rw [same] at taken left
  exact ⟨taken.symm.trans otherTaken, left.symm.trans otherLeft⟩

/-- The sign of a number. -/
def signChars (negative : Bool) : List Char := if negative then ['-'] else []

theorem sign_append_inj {one two : Bool} {digits others rest after : List Char}
    (numeral : IsNumeral digits) (otherNumeral : IsNumeral others)
    (same : signChars one ++ (digits ++ rest) = signChars two ++ (others ++ after)) :
    one = two ∧ digits ++ rest = others ++ after := by
  cases one with
  | true =>
      cases two with
      | true => exact ⟨rfl, List.append_cancel_left same⟩
      | false => exact absurd same (otherNumeral.ne_minus _ _)
  | false =>
      cases two with
      | true => exact absurd same.symm (numeral.ne_minus _ _)
      | false => exact ⟨rfl, same⟩

theorem integerChars_eq (i : Int) :
    integerChars i = signChars (decide (i < 0)) ++ digitChars i.natAbs := by
  by_cases negative : i < 0
  · simp [integerChars, signChars, negative]
  · simp [integerChars, signChars, negative]

theorem fractionChars_eq (x : Binary64) :
    fractionChars x = signChars x.negative ++ decimalChars x.shortest := rfl

/-- The text of an integer is that of no other number. -/
theorem told_integer (i : Int) : Told numberChars (.integer i) := by
  intro other rest after ends otherEnds same
  have numeral := isNumeral_digitChars i.natAbs
  rw [numberChars, integerChars_eq, List.append_assoc] at same
  cases other with
  | integer j =>
      have otherNumeral := isNumeral_digitChars j.natAbs
      rw [numberChars, integerChars_eq, List.append_assoc] at same
      obtain ⟨signs, digits⟩ := sign_append_inj numeral otherNumeral same
      obtain ⟨chars, rfl⟩ := digits_append_inj numeral.2 otherNumeral.2
        (fun c first => (ends c first).1) (fun c first => (otherEnds c first).1) digits
      have sizes : i.natAbs = j.natAbs := by
        rw [← digitsValue_digitChars i.natAbs, chars, digitsValue_digitChars]
      have whole : i = j := by
        simp only [decide_eq_decide] at signs
        omega
      exact ⟨congrArg Number.integer whole, rfl⟩
  | fraction x =>
      obtain ⟨digits, more, text, otherNumeral, goesOn⟩ := decimalChars_eq x.shortest
      rw [numberChars, fractionChars_eq, text, List.append_assoc, List.append_assoc] at same
      obtain ⟨-, digits⟩ := sign_append_inj numeral otherNumeral same
      obtain ⟨-, rfl⟩ := digits_append_inj numeral.2 otherNumeral.2
        (fun c first => (ends c first).1) goesOn.no_digit digits
      exact absurd ends goesOn.not_endsNumber

/-! ## Between brackets -/

/-- What may follow a part of a list that is the last one: the end of a number, and no comma. -/
def EndsList (rest : List Char) : Prop := EndsNumber rest ∧ rest.head? ≠ some ','

/-- A bracket that closes a list. -/
def Closes (close : Char) : Prop := close = ']' ∨ close = '\x7d'

theorem endsList_of_closes {blanks : List Char} {close : Char} (closes : Closes close)
    (space : ∀ c ∈ blanks, isSpace c = true) (tail : List Char) :
    EndsList (blanks ++ close :: tail) := by
  constructor
  · apply endsNumber_append space
    rcases closes with rfl | rfl
    · exact endsNumber_cons _ (by decide)
    · exact endsNumber_cons _ (by decide)
  · cases blanks with
    | nil => rcases closes with rfl | rfl <;> simp
    | cons blank more =>
        have isBlank := space blank List.mem_cons_self
        rintro ⟨⟩
        exact absurd isBlank (by decide)

theorem skipSpace_of_closes {close : Char} (closes : Closes close) (tail : List Char) :
    skipSpace (close :: tail) = close :: tail := by
  rcases closes with rfl | rfl
  · exact skipSpace_cons rfl tail
  · exact skipSpace_cons rfl tail

section Lists

variable {α : Type} {text : α → List Char}

/-- The parts of a list after the first, each with the comma before it. -/
def moreChars (text : α → List Char) (items : List α) : List Char :=
  items.flatMap fun item => ',' :: text item

theorem endsNumber_moreChars {items : List α} {rest : List Char} (ends : EndsNumber rest) :
    EndsNumber (moreChars text items ++ rest) := by
  cases items with
  | nil => exact ends
  | cons item more => exact endsNumber_cons _ (by decide)

theorem moreChars_append_inj {items others : List α} {rest after : List Char}
    (each : ∀ item ∈ items, Told text item) (ends : EndsList rest) (otherEnds : EndsList after)
    (same : moreChars text items ++ rest = moreChars text others ++ after) :
    items = others ∧ rest = after := by
  induction items generalizing others with
  | nil =>
      cases others with
      | nil => exact ⟨rfl, same⟩
      | cons other others => exact absurd (congrArg List.head? same) ends.2
  | cons item items ih =>
      cases others with
      | nil => exact absurd (congrArg List.head? same).symm otherEnds.2
      | cons other others =>
          obtain ⟨first, later⟩ := List.forall_mem_cons.mp each
          simp only [moreChars, List.flatMap_cons, List.cons_append, List.append_assoc,
            List.cons.injEq, true_and] at same
          obtain ⟨rfl, left⟩ := first other _ _ (endsNumber_moreChars ends.1)
            (endsNumber_moreChars otherEnds.1) same
          obtain ⟨rfl, rfl⟩ := ih later left
          exact ⟨rfl, rfl⟩

/-- The text of a list after its opening bracket: blanks before each part, and blanks before the
closing bracket unless there is no part. -/
def listChars (inner outer : List Char) (close : Char) (text : α → List Char) :
    List α → List Char
  | [] => [close]
  | item :: items =>
      inner ++ text item ++ moreChars (fun one => inner ++ text one) items ++ outer ++ [close]

theorem told_listChars {inner outer : List Char} {close : Char} {items : List α}
    (innerSpace : ∀ c ∈ inner, isSpace c = true) (outerSpace : ∀ c ∈ outer, isSpace c = true)
    (closes : Closes close) (visible : ∀ item, ∃ c cs, text item = c :: cs ∧ Begins c)
    (each : ∀ item ∈ items, Told text item) : Told (listChars inner outer close text) items := by
  intro others rest after ends otherEnds same
  -- an empty list closes where the first part of another begins
  have notClosed : ∀ (item : α) (tail rest : List Char),
      close :: rest ≠ inner ++ text item ++ tail := by
    intro item tail rest same
    obtain ⟨c, cs, first, begins⟩ := visible item
    have skipped := congrArg skipSpace same
    rw [skipSpace_of_closes closes, List.append_assoc, skipSpace_append innerSpace, first,
      List.cons_append, skipSpace_cons begins.1] at skipped
    obtain ⟨rfl, -⟩ := List.cons_eq_cons.mp skipped
    rcases closes with rfl | rfl
    · exact begins.2.1 rfl
    · exact begins.2.2.1 rfl
  cases items with
  | nil =>
      cases others with
      | nil => exact ⟨rfl, List.append_cancel_left same⟩
      | cons other others =>
          simp only [listChars, List.append_assoc] at same
          rw [← List.append_assoc] at same
          exact absurd same (notClosed _ _ _)
  | cons item items =>
      cases others with
      | nil =>
          simp only [listChars, List.append_assoc] at same
          rw [← List.append_assoc] at same
          exact absurd same.symm (notClosed _ _ _)
      | cons other others =>
          obtain ⟨first, later⟩ := List.forall_mem_cons.mp each
          have ends := endsList_of_closes closes outerSpace
          simp only [listChars, List.append_assoc, List.append_cancel_left_eq,
            List.singleton_append] at same
          obtain ⟨rfl, left⟩ := first other _ _ (endsNumber_moreChars (ends _).1)
            (endsNumber_moreChars (ends _).1) same
          obtain ⟨rfl, left⟩ := moreChars_append_inj
            (fun one member => (later one member).prefixed inner) (ends _) (ends _) left
          simp only [List.append_cancel_left_eq, List.cons.injEq, true_and] at left
          exact ⟨rfl, left⟩

end Lists

/-! ## Values -/

/-- What the text of a value begins with. -/
def Starts : Json → Char → Prop
  | .null, c => c = 'n'
  | .bool b, c => c = if b then 't' else 'f'
  | .number _, c => isDigit c = true ∨ c = '-'
  | .string _, c => c = '"'
  | .array _, c => c = '['
  | .object _, c => c = '\x7b'

theorem Starts.begins {value : Json} {c : Char} (starts : Starts value c) : Begins c := by
  cases value with
  | null => obtain rfl := starts; decide
  | bool b => obtain rfl := starts; cases b <;> decide
  | number n =>
      rcases starts with digit | rfl
      · exact begins_of_isDigit digit
      · decide
  | string s => obtain rfl := starts; decide
  | array items => obtain rfl := starts; decide
  | object members => obtain rfl := starts; decide

theorem Starts.eq_null {other : Json} (starts : Starts other 'n') : other = .null := by
  cases other with
  | null => rfl
  | bool b => cases b <;> simp [Starts] at starts
  | number | string | array | object => simp [Starts, isDigit] at starts

theorem Starts.eq_bool {b : Bool} {other : Json} (starts : Starts other (if b then 't' else 'f')) :
    other = .bool b := by
  cases other with
  | bool d => cases b <;> cases d <;> first | rfl | simp [Starts] at starts
  | null | number | string | array | object => cases b <;> simp [Starts, isDigit] at starts

theorem Starts.exists_number {n : Number} {other : Json} {c : Char} (own : Starts (.number n) c)
    (starts : Starts other c) : ∃ m, other = .number m := by
  cases other with
  | number m => exact ⟨m, rfl⟩
  | bool b =>
      obtain rfl := starts
      cases b <;> simp [Starts, isDigit] at own
  | null | string | array | object =>
      obtain rfl := starts
      simp [Starts, isDigit] at own

theorem Starts.exists_string {other : Json} (starts : Starts other '"') :
    ∃ t, other = .string t := by
  cases other with
  | string t => exact ⟨t, rfl⟩
  | bool b => cases b <;> simp [Starts] at starts
  | null | number | array | object => simp [Starts, isDigit] at starts

theorem Starts.exists_array {other : Json} (starts : Starts other '[') :
    ∃ items, other = .array items := by
  cases other with
  | array items => exact ⟨items, rfl⟩
  | bool b => cases b <;> simp [Starts] at starts
  | null | number | string | object => simp [Starts, isDigit] at starts

theorem Starts.exists_object {other : Json} (starts : Starts other '\x7b') :
    ∃ members, other = .object members := by
  cases other with
  | object members => exact ⟨members, rfl⟩
  | bool b => cases b <;> simp [Starts] at starts
  | null | number | string | array => simp [Starts, isDigit] at starts

theorem numberChars_cons (n : Number) :
    ∃ c rest, numberChars n = c :: rest ∧ Starts (.number n) c := by
  obtain ⟨negative, digits, more, text, numeral⟩ : ∃ negative digits more,
      numberChars n = signChars negative ++ (digits ++ more) ∧ IsNumeral digits := by
    cases n with
    | integer i =>
        exact ⟨decide (i < 0), digitChars i.natAbs, [], by simp [numberChars, integerChars_eq],
          isNumeral_digitChars _⟩
    | fraction x =>
        obtain ⟨digits, more, text, numeral, -⟩ := decimalChars_eq x.shortest
        exact ⟨x.negative, digits, more, by rw [numberChars, fractionChars_eq, text], numeral⟩
  obtain ⟨d, others, rfl⟩ := List.exists_cons_of_ne_nil numeral.1
  cases negative with
  | true => exact ⟨'-', _, text, .inr rfl⟩
  | false => exact ⟨d, _, text, .inl (numeral.2 d List.mem_cons_self)⟩

namespace Layout

variable (layout : Layout)

/-- The text of a member at a level. -/
def memberChars (level : Nat) (member : String × Json) : List Char :=
  quote member.1 ++ ':' :: (layout.gap ++ layout.chars level member.2)

theorem moreItems_eq (level : Nat) (items : List Json) : layout.moreItems level items =
    moreChars (fun item => layout.line level ++ layout.chars level item) items := by
  induction items with
  | nil => rfl
  | cons item rest ih => simp [moreItems, moreChars, ih]

theorem moreMembers_eq (level : Nat) (members : List (String × Json)) :
    layout.moreMembers level members =
      moreChars (fun member => layout.line level ++ layout.memberChars level member) members := by
  induction members with
  | nil => rfl
  | cons member rest ih => simp [moreMembers, moreChars, memberChars, ih]

theorem chars_array (level : Nat) (items : List Json) : layout.chars level (.array items) =
    '[' :: listChars (layout.line (level + 1)) (layout.line level) ']'
      (layout.chars (level + 1)) items := by
  cases items with
  | nil => rfl
  | cons item rest => simp [chars, listChars, moreItems_eq]

theorem chars_object (level : Nat) (members : List (String × Json)) :
    layout.chars level (.object members) =
      '\x7b' :: listChars (layout.line (level + 1)) (layout.line level) '\x7d'
        (layout.memberChars (level + 1)) members := by
  cases members with
  | nil => rfl
  | cons member rest => simp [chars, listChars, moreMembers_eq, memberChars]

theorem chars_starts (level : Nat) (value : Json) :
    ∃ c rest, layout.chars level value = c :: rest ∧ Starts value c := by
  cases value with
  | null => exact ⟨'n', _, layout.chars_null level, rfl⟩
  | bool b =>
      cases b with
      | true => exact ⟨'t', _, layout.chars_true level, rfl⟩
      | false => exact ⟨'f', _, layout.chars_false level, rfl⟩
  | number n =>
      rw [layout.chars_number]
      exact numberChars_cons n
  | string s => exact ⟨'"', _, layout.chars_string level s, rfl⟩
  | array items => exact ⟨'[', _, layout.chars_array level items, rfl⟩
  | object members => exact ⟨'\x7b', _, layout.chars_object level members, rfl⟩

theorem chars_begins (level : Nat) (value : Json) :
    ∃ c rest, layout.chars level value = c :: rest ∧ Begins c := by
  obtain ⟨c, rest, text, starts⟩ := layout.chars_starts level value
  exact ⟨c, rest, text, starts.begins⟩

theorem starts_of_append {level : Nat} {value other : Json} {c : Char}
    {chars rest after : List Char} (text : layout.chars level value = c :: chars)
    (same : layout.chars level value ++ rest = layout.chars level other ++ after) :
    Starts other c := by
  obtain ⟨d, more, otherText, starts⟩ := layout.chars_starts level other
  rw [text, otherText] at same
  obtain ⟨rfl, -⟩ := List.cons_eq_cons.mp same
  exact starts

theorem told_member {level : Nat} {member : String × Json}
    (told : Told (layout.chars level) member.2) : Told (layout.memberChars level) member := by
  intro other rest after ends otherEnds same
  simp only [memberChars, List.append_assoc, List.cons_append] at same
  obtain ⟨key, left⟩ := quote_append_inj same
  simp only [List.cons.injEq, true_and, List.append_cancel_left_eq] at left
  obtain ⟨value, rfl⟩ := told other.2 rest after ends otherEnds left
  exact ⟨Prod.ext key value, rfl⟩

/-- The text of a value with integers only is that of no other value. -/
theorem told {value : Json} (integral : IsIntegral value) (level : Nat) :
    Told (layout.chars level) value := by
  induction value using Json.induction generalizing level with
  | null =>
      intro other rest after _ _ same
      obtain rfl := (layout.starts_of_append (layout.chars_null level) same).eq_null
      exact ⟨rfl, List.append_cancel_left same⟩
  | bool b =>
      intro other rest after _ _ same
      obtain rfl : other = .bool b := by
        cases b with
        | true => exact Starts.eq_bool (layout.starts_of_append (layout.chars_true level) same)
        | false => exact Starts.eq_bool (layout.starts_of_append (layout.chars_false level) same)
      exact ⟨rfl, List.append_cancel_left same⟩
  | number n =>
      intro other rest after ends otherEnds same
      obtain ⟨c, more, text, starts⟩ := numberChars_cons n
      obtain ⟨m, rfl⟩ := starts.exists_number
        (layout.starts_of_append ((layout.chars_number level n).trans text) same)
      cases n with
      | fraction x => exact absurd integral id
      | integer i =>
          rw [chars_number, chars_number] at same
          obtain ⟨rfl, rfl⟩ := told_integer i m rest after ends otherEnds same
          exact ⟨rfl, rfl⟩
  | string s =>
      intro other rest after _ _ same
      obtain ⟨t, rfl⟩ :=
        (layout.starts_of_append (layout.chars_string level s) same).exists_string
      rw [chars_string, chars_string] at same
      obtain ⟨rfl, rfl⟩ := quote_append_inj same
      exact ⟨rfl, rfl⟩
  | array items ih =>
      intro other rest after ends otherEnds same
      have each := everyItem_iff.mp integral.2
      obtain ⟨others, rfl⟩ :=
        (layout.starts_of_append (layout.chars_array level items) same).exists_array
      have inside := told_listChars (layout.line_space (level + 1)) (layout.line_space level)
        (.inl rfl) (layout.chars_begins (level + 1))
        fun item member => ih item member (each item member) (level + 1)
      rw [chars_array, chars_array] at same
      obtain ⟨rfl, rfl⟩ := inside others rest after ends otherEnds (List.cons.inj same).2
      exact ⟨rfl, rfl⟩
  | object members ih =>
      intro other rest after ends otherEnds same
      have each := everyMember_iff.mp integral.2
      obtain ⟨others, rfl⟩ :=
        (layout.starts_of_append (layout.chars_object level members) same).exists_object
      have inside := told_listChars (layout.line_space (level + 1)) (layout.line_space level)
        (.inr rfl) (fun _ => ⟨'"', _, rfl, by decide⟩)
        fun member found => layout.told_member (ih member found (each member found) (level + 1))
      rw [chars_object, chars_object] at same
      obtain ⟨rfl, rfl⟩ := inside others rest after ends otherEnds (List.cons.inj same).2
      exact ⟨rfl, rfl⟩

end Layout

/-- A value with integers only has its text to itself. -/
theorem compact_eq_iff {value other : Json} (integral : IsIntegral value) :
    value.compact = other.compact ↔ value = other := by
  constructor
  · intro same
    have chars : compactChars value = compactChars other := by
      simpa [compact] using congrArg String.toList same
    have ends : EndsNumber [] := fun c none => by cases none
    refine (Layout.compact.told integral 0 other [] [] ends ends ?_).1
    rw [← compactChars_eq, ← compactChars_eq, chars]
  · exact congrArg compact

end NetConsole.Json
