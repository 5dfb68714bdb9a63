import NetConsole.Client.Basic
import Mathlib.Data.List.TakeWhile

/-!
# Tokens in headers

A token comes out of a cookie without blanks around it, so the headers that bear it arrive as they
were sent. What a request bears is therefore exactly what is held when it goes out.
-/

set_option autoImplicit false

namespace NetConsole

namespace Text

theorem dropWhile_eq_self {p : Char → Bool} {cs : List Char}
    (first : ∀ c, cs.head? = some c → p c = false) : cs.dropWhile p = cs := by
  cases cs with
  | nil => rfl
  | cons c rest => exact List.dropWhile_cons_of_neg (Bool.eq_false_iff.mp (first c rfl))

theorem getLast?_trimChars {cs : List Char} {c : Char} (last : (trimChars cs).getLast? = some c) :
    isBlank c = false := by
  rw [trimChars, trimEndChars, List.getLast?_reverse] at last
  have kept := List.head?_dropWhile_not isBlank (cs.dropWhile isBlank).reverse
  rw [last] at kept
  simpa using kept

theorem trimEndChars_prefix (cs : List Char) : trimEndChars cs <+: cs := by
  rw [trimEndChars, ← List.reverse_suffix, List.reverse_reverse]
  exact List.dropWhile_suffix isBlank

theorem trimChars_sublist (cs : List Char) : (trimChars cs).Sublist cs := by
  have front := trimEndChars_prefix (cs.dropWhile isBlank)
  exact front.sublist.trans (List.dropWhile_sublist _)

theorem head?_trimChars {cs : List Char} {c : Char} (first : (trimChars cs).head? = some c) :
    isBlank c = false := by
  have kept := List.head?_dropWhile_not isBlank cs
  obtain ⟨rest, split⟩ := trimEndChars_prefix (cs.dropWhile isBlank)
  have same : (cs.dropWhile isBlank).head? = some c := by
    rw [← split, List.head?_append]
    rw [trimChars] at first
    rw [first]
    rfl
  rw [same] at kept
  simpa using kept

end Text

/-- A text with no blank at either end. -/
structure IsTrimmed (text : String) : Prop where
  first : ∀ c, text.toList.head? = some c → Text.isBlank c = false
  last : ∀ c, text.toList.getLast? = some c → Text.isBlank c = false

private theorem isEdge_eq_false {c : Char} (visible : Text.isBlank c = false) :
    (c == ' ' || c == '\t') = false := by
  simp only [Bool.or_eq_false_iff, beq_eq_false_iff_ne, ne_eq]
  constructor <;> rintro rfl <;> exact absurd visible (by decide)

/-- A trimmed text arrives as a header value as it was sent. -/
theorem IsTrimmed.headerArrives_eq_self {text : String} (trimmed : IsTrimmed text) :
    headerArrives text = text := by
  have front : text.toList.dropWhile (fun c => c == ' ' || c == '\t') = text.toList :=
    Text.dropWhile_eq_self fun c first => isEdge_eq_false (trimmed.first c first)
  have back : text.toList.reverse.dropWhile (fun c => c == ' ' || c == '\t') =
      text.toList.reverse := by
    refine Text.dropWhile_eq_self fun c first => isEdge_eq_false (trimmed.last c ?_)
    rw [← List.head?_reverse]
    exact first
  simp only [headerArrives, front, back, List.reverse_reverse, String.ofList_toList]

/-- A text that begins and ends visibly is trimmed, whatever stands between. -/
theorem IsTrimmed.append {front back : String} (trimmed : IsTrimmed back)
    (visible : ∃ c, front.toList.head? = some c ∧ Text.isBlank c = false)
    (ends : ∃ c, front.toList.getLast? = some c ∧ Text.isBlank c = false) :
    IsTrimmed (front ++ back) := by
  obtain ⟨firstChar, isFirst, firstVisible⟩ := visible
  obtain ⟨lastChar, isLast, lastVisible⟩ := ends
  constructor
  · intro c found
    rw [String.toList_append, List.head?_append, isFirst] at found
    cases found
    exact firstVisible
  · intro c found
    rw [String.toList_append, List.getLast?_append] at found
    cases there : back.toList.getLast? with
    | none =>
        rw [there, isLast] at found
        cases found
        exact lastVisible
    | some other =>
        rw [there] at found
        cases found
        exact trimmed.last c there

/-! ## Cookies -/

theorem cookieOf_isTrimmed {value : String} {cookie : String × String}
    (sets : cookieOf value = some cookie) : IsTrimmed cookie.2 := by
  unfold cookieOf at sets
  dsimp only at sets
  split at sets
  · cases sets
  · split at sets
    · cases sets
    · cases sets
      constructor
      · intro c first
        rw [String.toList_ofList] at first
        exact Text.head?_trimChars first
      · intro c last
        rw [String.toList_ofList] at last
        exact Text.getLast?_trimChars last

theorem Answer.isTrimmed_of_mem_cookies {answer : Answer} {cookie : String × String}
    (isSet : cookie ∈ answer.cookies) : IsTrimmed cookie.2 := by
  obtain ⟨header, -, sets⟩ := List.mem_filterMap.mp isSet
  exact cookieOf_isTrimmed sets

namespace Tokens

/-- Tokens as cookies give them. -/
structure Proper (tokens : Tokens) : Prop where
  session : ∀ token, tokens.session = some token → IsTrimmed token
  csrf : ∀ token, tokens.csrf = some token → IsTrimmed token

theorem Proper.empty : Tokens.empty.Proper :=
  ⟨fun _ held => (nomatch held), fun _ held => (nomatch held)⟩

/-- Something holds of every token that is held. -/
structure Each (holds : String → Prop) (tokens : Tokens) : Prop where
  session : ∀ token, tokens.session = some token → holds token
  csrf : ∀ token, tokens.csrf = some token → holds token

theorem issued_eq_some_iff {value token : String} :
    issued value = some token ↔ value ≠ "" ∧ token = value := by
  unfold issued
  split
  case isTrue empty => simp [empty]
  case isFalse given => simp [given, eq_comm]

variable {holds : String → Prop} {tokens : Tokens}

/-- An empty value takes a token away, so it need not be one. -/
theorem Each.set (each : tokens.Each holds) {cookie : String × String}
    (new : cookie.2 ≠ "" → holds cookie.2) : (tokens.set cookie).Each holds := by
  have fresh : ∀ token, issued cookie.2 = some token → holds token := by
    intro token held
    obtain ⟨given, rfl⟩ := issued_eq_some_iff.mp held
    exact new given
  unfold Tokens.set
  split
  · exact ⟨fresh, each.csrf⟩
  · split
    · exact ⟨each.session, fresh⟩
    · exact each

/-- What holds of the tokens and of all that cookies set holds of the tokens after them. -/
theorem Each.absorb (each : tokens.Each holds) {cookies : List (String × String)}
    (new : ∀ cookie ∈ cookies, cookie.2 ≠ "" → holds cookie.2) :
    (tokens.absorb cookies).Each holds := by
  unfold Tokens.absorb
  induction cookies generalizing tokens with
  | nil => exact each
  | cons cookie rest ih =>
      exact ih (each.set (new cookie List.mem_cons_self))
        fun other member => new other (List.mem_cons_of_mem cookie member)

theorem Proper.absorb (proper : tokens.Proper) {cookies : List (String × String)}
    (trimmed : ∀ cookie ∈ cookies, IsTrimmed cookie.2) : (tokens.absorb cookies).Proper := by
  have each : tokens.Each IsTrimmed := ⟨proper.session, proper.csrf⟩
  have after := each.absorb fun cookie member _ => trimmed cookie member
  exact ⟨after.session, after.csrf⟩

/-! ## The cookie header -/

/-- The line that bears tokens: the session token comes first, and a token that is not held is
left out. -/
def line : Option String → Option String → Option String
  | none, none => none
  | some session, none => some ("unifises=" ++ session)
  | none, some csrf => some ("csrf_token=" ++ csrf)
  | some session, some csrf => some ("unifises=" ++ session ++ "; csrf_token=" ++ csrf)

theorem header?_eq_line (tokens : Tokens) : tokens.header? = line tokens.session tokens.csrf := by
  obtain ⟨session, csrf⟩ := tokens
  cases session with
  | none => cases csrf <;> rfl
  | some session =>
      cases csrf with
      | none => rfl
      | some csrf =>
          have fused : "; csrf_token=" = "; " ++ "csrf_token=" := rfl
          change some ("unifises=" ++ session ++ "; " ++ ("csrf_token=" ++ csrf)) = _
          simp only [line, fused, String.append_assoc]

theorem Proper.header?_isTrimmed (proper : tokens.Proper) {text : String}
    (header : tokens.header? = some text) : IsTrimmed text := by
  obtain ⟨session, csrf⟩ := tokens
  rw [header?_eq_line] at header
  cases session with
  | none =>
      cases csrf with
      | none => cases header
      | some csrf =>
          cases header
          exact (proper.csrf csrf rfl).append ⟨'c', rfl, rfl⟩ ⟨'=', rfl, rfl⟩
  | some session =>
      cases csrf with
      | none =>
          cases header
          exact (proper.session session rfl).append ⟨'u', rfl, rfl⟩ ⟨'=', rfl, rfl⟩
      | some csrf =>
          cases header
          refine (proper.csrf csrf rfl).append ⟨'u', ?_, rfl⟩ ⟨'=', ?_, rfl⟩
          · simp only [String.toList_append, List.append_assoc]
            rfl
          · simp only [String.toList_append, List.getLast?_append]
            rfl

end Tokens

end NetConsole
