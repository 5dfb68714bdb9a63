import NetConsole.Proofs.Json.Sorted
import NetConsole.Proofs.Json.Strings
import Mathlib.Data.List.DropRight

/-!
# Scanning a value that was written

The compact and the indented text of a value differ only in the blanks between its parts. Both are
one text with a layout, and scanning a text with any layout comes to a tree that spells the value.
-/

set_option autoImplicit false

namespace NetConsole.Json

/-! ## Layouts -/

/-- The blanks of a text: before an item or member at a level, and after a colon. -/
structure Layout where
  line : Nat → List Char
  gap : List Char
  line_space : ∀ level, ∀ c ∈ line level, isSpace c = true
  gap_space : ∀ c ∈ gap, isSpace c = true

namespace Layout

/-- No blanks at all. -/
def compact : Layout := ⟨fun _ => [], [], fun _ => nofun, nofun⟩

theorem newLine_space (level : Nat) : ∀ c ∈ newLine level, isSpace c = true := by
  intro c member
  rcases List.mem_cons.mp member with rfl | blank
  · rfl
  · rw [List.eq_of_mem_replicate blank]
    rfl

/-- A line for each part, indented by its level. -/
def pretty : Layout := ⟨newLine, [' '], newLine_space, List.forall_mem_singleton.mpr rfl⟩

variable (layout : Layout)

mutual

/-- The text of a value at a level. -/
def chars (level : Nat) : Json → List Char
  | .array [] => ['[', ']']
  | .array (item :: rest) =>
      '[' :: (layout.line (level + 1) ++ chars (level + 1) item ++
        moreItems (level + 1) rest ++ layout.line level ++ [']'])
  | .object [] => ['\x7b', '\x7d']
  | .object ((key, value) :: rest) =>
      '\x7b' :: (layout.line (level + 1) ++ quote key ++ ':' :: layout.gap ++
        chars (level + 1) value ++ moreMembers (level + 1) rest ++ layout.line level ++ ['\x7d'])
  | scalar => compactChars scalar

/-- The text of the items after the first, each with the comma before it. -/
def moreItems (level : Nat) : List Json → List Char
  | [] => []
  | item :: rest => ',' :: (layout.line level ++ chars level item ++ moreItems level rest)

/-- The text of the members after the first, each with the comma before it. -/
def moreMembers (level : Nat) : List (String × Json) → List Char
  | [] => []
  | (key, value) :: rest =>
      ',' :: (layout.line level ++ quote key ++ ':' :: layout.gap ++ chars level value ++
        moreMembers level rest)

end

@[simp] theorem chars_null (level : Nat) : layout.chars level .null = ['n', 'u', 'l', 'l'] := by
  simp only [chars, compactChars]

@[simp] theorem chars_true (level : Nat) :
    layout.chars level (.bool true) = ['t', 'r', 'u', 'e'] := by
  simp only [chars, compactChars]

@[simp] theorem chars_false (level : Nat) :
    layout.chars level (.bool false) = ['f', 'a', 'l', 's', 'e'] := by
  simp only [chars, compactChars]

@[simp] theorem chars_number (level : Nat) (n : Number) :
    layout.chars level (.number n) = numberChars n := by
  simp only [chars, compactChars]

@[simp] theorem chars_string (level : Nat) (s : String) :
    layout.chars level (.string s) = quote s := by
  simp only [chars, compactChars]

end Layout

private theorem compactItems_cons (level : Nat) (item : Json) {rest : List Json}
    (each : ∀ item ∈ rest, ∀ level, compactChars item = Layout.compact.chars level item) :
    compactItems (item :: rest) = compactChars item ++ Layout.compact.moreItems level rest := by
  induction rest generalizing item with
  | nil => simp [compactItems, Layout.moreItems]
  | cons next rest ih =>
      obtain ⟨second, later⟩ := List.forall_mem_cons.mp each
      rw [compactItems, ih next later, Layout.moreItems, second level]
      · rfl
      · simp

private theorem compactMembers_cons (level : Nat) (key : String) (value : Json)
    {rest : List (String × Json)}
    (each : ∀ member ∈ rest, ∀ level, compactChars member.2 = Layout.compact.chars level member.2) :
    compactMembers ((key, value) :: rest) =
      quote key ++ ':' :: (compactChars value ++ Layout.compact.moreMembers level rest) := by
  induction rest generalizing key value with
  | nil => simp [compactMembers, Layout.moreMembers]
  | cons next rest ih =>
      obtain ⟨second, later⟩ := List.forall_mem_cons.mp each
      obtain ⟨nextKey, nextValue⟩ := next
      rw [compactMembers, ih nextKey nextValue later, Layout.moreMembers, second level]
      · simp [Layout.compact]
      · simp

theorem compactChars_eq (value : Json) (level : Nat) :
    compactChars value = Layout.compact.chars level value := by
  induction value using Json.induction generalizing level with
  | null | bool | number | string => simp only [Layout.chars]
  | array items ih =>
      cases items with
      | nil => rfl
      | cons item rest =>
          obtain ⟨first, later⟩ := List.forall_mem_cons.mp ih
          rw [compactChars, compactItems_cons (level + 1) item later, first (level + 1)]
          simp [Layout.chars, Layout.compact]
  | object members ih =>
      cases members with
      | nil => rfl
      | cons member rest =>
          obtain ⟨first, later⟩ := List.forall_mem_cons.mp ih
          obtain ⟨key, value⟩ := member
          rw [compactChars, compactMembers_cons (level + 1) key value later, first (level + 1)]
          simp [Layout.chars, Layout.compact]

private theorem prettyItems_cons {level : Nat} (item : Json) {rest : List Json}
    (each : ∀ item ∈ rest, ∀ level, prettyChars level item = Layout.pretty.chars level item) :
    prettyItems level (item :: rest) =
      newLine level ++ prettyChars level item ++ Layout.pretty.moreItems level rest := by
  induction rest generalizing item with
  | nil => simp [prettyItems, Layout.moreItems]
  | cons next rest ih =>
      obtain ⟨second, later⟩ := List.forall_mem_cons.mp each
      rw [prettyItems, ih next later, Layout.moreItems, second level]
      · rfl
      · simp

private theorem prettyMembers_cons {level : Nat} (key : String) (value : Json)
    {rest : List (String × Json)}
    (each : ∀ member ∈ rest, ∀ level,
      prettyChars level member.2 = Layout.pretty.chars level member.2) :
    prettyMembers level ((key, value) :: rest) =
      newLine level ++ quote key ++ ':' :: ' ' :: (prettyChars level value ++
        Layout.pretty.moreMembers level rest) := by
  induction rest generalizing key value with
  | nil => simp [prettyMembers, Layout.moreMembers]
  | cons next rest ih =>
      obtain ⟨second, later⟩ := List.forall_mem_cons.mp each
      obtain ⟨nextKey, nextValue⟩ := next
      rw [prettyMembers, ih nextKey nextValue later, Layout.moreMembers, second level]
      · simp [Layout.pretty]
      · simp

/-- The indented text of a value is its text in the layout of lines. -/
theorem prettyChars_eq (value : Json) (level : Nat) :
    prettyChars level value = Layout.pretty.chars level value := by
  induction value using Json.induction generalizing level with
  | null | bool | number | string => simp only [Layout.chars, prettyChars]
  | array items ih =>
      cases items with
      | nil => rfl
      | cons item rest =>
          obtain ⟨first, later⟩ := List.forall_mem_cons.mp ih
          rw [prettyChars, prettyItems_cons item later, first (level + 1)]
          simp [Layout.chars, Layout.pretty]
  | object members ih =>
      cases members with
      | nil => rfl
      | cons member rest =>
          obtain ⟨first, later⟩ := List.forall_mem_cons.mp ih
          obtain ⟨key, value⟩ := member
          rw [prettyChars, prettyMembers_cons key value later, first (level + 1)]
          simp [Layout.chars, Layout.pretty]

/-! ## Blanks -/

theorem skipSpace_append {blanks : List Char} (all : ∀ c ∈ blanks, isSpace c = true)
    (cs : List Char) : skipSpace (blanks ++ cs) = skipSpace cs :=
  List.dropWhile_append_of_pos all

theorem skipSpace_cons {c : Char} (visible : isSpace c = false) (cs : List Char) :
    skipSpace (c :: cs) = c :: cs := by
  rw [skipSpace, List.dropWhile_cons, visible]
  rfl

theorem skipSpace_idem (cs : List Char) : skipSpace (skipSpace cs) = skipSpace cs :=
  List.dropWhile_idempotent isSpace cs

theorem scanValue_skipSpace (fuel : Nat) (cs : List Char) :
    scanValue fuel (skipSpace cs) = scanValue fuel cs := by
  cases fuel with
  | zero => rfl
  | succ fuel => rw [scanValue, scanValue, skipSpace_idem]

/-- What the text of a value begins with: nothing that could close or separate anything. -/
abbrev Begins (c : Char) : Prop := isSpace c = false ∧ c ≠ ']' ∧ c ≠ '\x7d' ∧ c ≠ ','

theorem begins_of_isDigit {c : Char} (digit : isDigit c = true) : Begins c := by
  refine ⟨?_, ?_, ?_, ?_⟩
  · by_contra space
    simp only [isSpace, Bool.not_eq_false, Bool.or_eq_true, beq_iff_eq] at space
    rcases space with ((rfl | rfl) | rfl) | rfl <;> exact absurd digit (by decide)
  all_goals
    intro same
    subst same
    exact absurd digit (by decide)

theorem integerChars_cons (i : Int) : ∃ c rest, integerChars i = c :: rest ∧ Begins c := by
  by_cases negative : i < 0
  · exact ⟨'-', _, if_pos negative, by decide⟩
  · rw [integerChars, if_neg negative]
    cases digits : Decimal.digitChars i.natAbs with
    | nil => exact absurd digits (digitChars_ne_nil _)
    | cons d more =>
        have member : d ∈ Decimal.digitChars i.natAbs := by
          rw [digits]
          exact List.mem_cons_self
        exact ⟨d, more, rfl, begins_of_isDigit (isDigit_of_mem_digitChars member)⟩

/-- The text of a value whose numbers are integers begins visibly. -/
theorem Layout.chars_cons (layout : Layout) (level : Nat) {value : Json}
    (whole : Whole value) : ∃ c rest, layout.chars level value = c :: rest ∧ Begins c := by
  cases value with
  | null => exact ⟨'n', _, layout.chars_null level, by decide⟩
  | bool b =>
      cases b with
      | true => exact ⟨'t', _, layout.chars_true level, by decide⟩
      | false => exact ⟨'f', _, layout.chars_false level, by decide⟩
  | number n =>
      cases n with
      | fraction x => exact absurd whole id
      | integer i =>
          rw [layout.chars_number]
          exact integerChars_cons i
  | string s => exact ⟨'"', _, layout.chars_string level s, by decide⟩
  | array items =>
      cases items with
      | nil => exact ⟨'[', _, rfl, by decide⟩
      | cons item rest => exact ⟨'[', _, rfl, by decide⟩
  | object members =>
      cases members with
      | nil => exact ⟨'\x7b', _, rfl, by decide⟩
      | cons member rest => exact ⟨'\x7b', _, rfl, by decide⟩

end NetConsole.Json
