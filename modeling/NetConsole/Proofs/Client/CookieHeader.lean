import NetConsole.Proofs.Client.TokenLaw
import NetConsole.Proofs.Client.Sharing

/-!
# What the cookie header tells

A cookie ends at its first semicolon and has no blanks around its value, so the tokens that answers
leave with a client have neither. That is why the header that bears them can be taken apart again,
though it joins them as they are: it tells exactly which tokens are held, and clients that hold
different tokens never send the same header.
-/

set_option autoImplicit false

namespace NetConsole

open Happening (exchanges arrived)

/-! ## What a token is -/

/-- A text that a cookie can issue as a token. -/
structure IsToken (token : String) : Prop where
  given : token ≠ ""
  unbroken : ';' ∉ token.toList
  trimmed : IsTrimmed token

theorem cookieOf_unbroken {value : String} {cookie : String × String}
    (sets : cookieOf value = some cookie) : ';' ∉ cookie.2.toList := by
  intro member
  unfold cookieOf at sets
  dsimp only at sets
  split at sets
  case h_1 => cases sets
  case h_2 first rest after =>
    split at sets
    case isTrue => cases sets
    case isFalse =>
      cases sets
      rw [String.toList_ofList] at member
      -- the value is a part of what comes before the first semicolon
      have within : ';' ∈ first :: rest :=
        List.mem_cons_of_mem first ((Text.trimChars_sublist rest).mem member)
      rw [← after] at within
      have before := (List.dropWhile_sublist _).mem within
      exact absurd (List.mem_takeWhile_imp before) (by decide)

theorem Answer.isToken_of_mem_cookies {answer : Answer} {cookie : String × String}
    (isSet : cookie ∈ answer.cookies) (given : cookie.2 ≠ "") : IsToken cookie.2 := by
  obtain ⟨header, -, sets⟩ := List.mem_filterMap.mp isSet
  exact ⟨given, cookieOf_unbroken sets, cookieOf_isTrimmed sets⟩

namespace Tokens

/-! ## Tokens that answers lead to -/

/-- The tokens that there are: none at first, and what one answer after another makes of them. -/
inductive Reached : Tokens → Prop where
  | fresh : Reached .empty
  | answered {tokens : Tokens} (answer : Answer) :
      Reached tokens → Reached (tokens.absorb answer.cookies)

variable {tokens : Tokens}

theorem Reached.isToken (reached : tokens.Reached) : tokens.Each IsToken := by
  induction reached with
  | fresh => exact ⟨fun _ held => (nomatch held), fun _ held => (nomatch held)⟩
  | answered answer _ ih => exact ih.absorb fun _ isSet => answer.isToken_of_mem_cookies isSet

/-- Dropping the tokens leads to none that answers could not lead to. -/
theorem Reached.after (reached : tokens.Reached) {log : List Happening}
    (came : ∀ list, .cookies list ∈ log → ∃ answer : Answer, list = answer.cookies) :
    (tokens.after log).Reached := by
  induction log generalizing tokens with
  | nil => exact reached
  | cons happening rest ih =>
      rw [after_cons]
      refine ih ?_ fun list member => came list (List.mem_cons_of_mem happening member)
      cases happening with
      | reset => exact .fresh
      | request sent => exact reached
      | cookies list =>
          obtain ⟨answer, rfl⟩ := came list List.mem_cons_self
          exact .answered answer reached

end Tokens

theorem Happening.came_of_mem_exchanges {news : List Sent} {replies : List Reply}
    {list : List (String × String)} (member : .cookies list ∈ exchanges news replies) :
    ∃ answer : Answer, list = answer.cookies := by
  induction news generalizing replies with
  | nil => exact absurd member List.not_mem_nil
  | cons sent more ih =>
      obtain same | later := List.mem_cons.mp member
      · cases same
      · obtain now | later := List.mem_append.mp later
        · unfold arrived at now
          split at now
          case h_1 answer _ =>
            cases List.mem_singleton.mp now
            exact ⟨answer, rfl⟩
          case h_2 => exact absurd now List.not_mem_nil
        · exact ih later

theorem Call.came_of_mem_logOf {calls : List Call} {client : Client}
    {list : List (String × String)} (member : .cookies list ∈ logOf calls client) :
    ∃ answer : Answer, list = answer.cookies := by
  induction calls generalizing client with
  | nil => exact absurd member List.not_mem_nil
  | cons call rest ih =>
      obtain now | later := List.mem_append.mp member
      · rw [Turn.log] at now
        obtain (first | news) | last := (List.mem_append.mp now).imp_left List.mem_append.mp
        · cases call <;> simp [Call.turn, Call.resetFirst] at first
        · exact Happening.came_of_mem_exchanges news
        · unfold Call.resetLast at last
          split at last <;> simp at last
      · exact ih later

/-- Whatever calls are made on a client, its tokens are ones that answers lead to. -/
theorem Call.reached_clientAfter (session : Session) (wire : Wire) (calls : List Call) :
    (clientAfter calls (.fresh session wire)).tokens.Reached := by
  obtain ⟨tokens, -⟩ := Call.tokens_clientAfter calls
    (show (Client.fresh session wire).tokens.Proper from .empty)
  rw [tokens]
  exact Tokens.Reached.fresh.after fun _ member => came_of_mem_logOf member

/-- So are those of a shared client, in whatever order requests begin and answers arrive. -/
theorem SharedClient.reached_run {shared : SharedClient} (reached : shared.tokens.Reached)
    (events : List Event) : (shared.run events).tokens.Reached := by
  induction events generalizing shared with
  | nil => exact reached
  | cons event rest ih =>
      rw [run_cons]
      apply ih
      rw [step_tokens]
      refine reached.after fun list member => ?_
      unfold happenings at member
      split at member
      case h_1 =>
        split at member <;> simp at member
      case h_2 position answer =>
        split at member
        · cases List.mem_singleton.mp member
          exact ⟨answer, rfl⟩
        · exact absurd member List.not_mem_nil
      case h_3 => exact absurd member List.not_mem_nil
      case h_4 => simp at member

/-! ## Taking a header apart -/

namespace Text

theorem trimChars_eq_self {text : String} (trimmed : IsTrimmed text) :
    trimChars text.toList = text.toList := by
  rw [trimChars, dropWhile_eq_self trimmed.first, trimEndChars, dropWhile_eq_self,
    List.reverse_reverse]
  rw [List.head?_reverse]
  exact trimmed.last

theorem trimChars_blank_cons (cs : List Char) : trimChars (' ' :: cs) = trimChars cs := by
  rw [trimChars, List.dropWhile_cons_of_pos (by decide), ← trimChars]

end Text

/-- A part of a header as a name and a value, around its first equals sign. -/
def cookieIn (part : List Char) : String × String :=
  let cookie := Text.trimChars part
  (String.ofList (cookie.takeWhile (· ≠ '=')), String.ofList ((cookie.dropWhile (· ≠ '=')).drop 1))

theorem cookieIn_blank_cons (part : List Char) : cookieIn (' ' :: part) = cookieIn part := by
  rw [cookieIn, Text.trimChars_blank_cons, ← cookieIn]

/-- The cookies in a header, if there is one: its parts between semicolons. -/
def cookiesIn : Option String → List (String × String)
  | none => []
  | some header => (header.toList.splitOn ';').map cookieIn

theorem cookieIn_named (name : String) {value : String} (plain : '=' ∉ name.toList)
    (trimmed : IsTrimmed (name ++ "=" ++ value)) :
    cookieIn (name ++ "=" ++ value).toList = (name, value) := by
  have whole : Text.trimChars (name ++ "=" ++ value).toList = name.toList ++ '=' :: value.toList := by
    rw [Text.trimChars_eq_self trimmed]
    simp
  have before : ∀ c ∈ name.toList, decide (c ≠ '=') = true := by
    intro c member
    exact decide_eq_true fun same => plain (same ▸ member)
  rw [cookieIn, whole, List.takeWhile_append_of_pos before, List.dropWhile_append_of_pos before]
  simp

namespace Tokens

variable {tokens : Tokens}

theorem cookieIn_session {token : String} (held : IsToken token) :
    cookieIn ("unifises=" ++ token).toList = (sessionName, token) :=
  cookieIn_named "unifises" (by decide) (held.trimmed.append ⟨'u', rfl, rfl⟩ ⟨'=', rfl, rfl⟩)

theorem cookieIn_csrf {token : String} (held : IsToken token) :
    cookieIn ("csrf_token=" ++ token).toList = (csrfName, token) :=
  cookieIn_named "csrf_token" (by decide) (held.trimmed.append ⟨'c', rfl, rfl⟩ ⟨'=', rfl, rfl⟩)

theorem cookiesIn_header? (each : tokens.Each IsToken) : cookiesIn tokens.header? = tokens.pairs := by
  have unbroken {name token : String} (plain : ';' ∉ name.toList) (held : IsToken token) :
      ';' ∉ (name ++ token).toList := by
    rw [String.toList_append, List.mem_append, not_or]
    exact ⟨plain, held.unbroken⟩
  rw [header?_eq_line]
  obtain ⟨session, csrf⟩ := tokens
  cases session with
  | none =>
      cases csrf with
      | none => rfl
      | some csrf =>
          have held := each.csrf csrf rfl
          rw [line, cookiesIn, List.splitOn_eq_singleton (unbroken (by decide) held),
            List.map_singleton, cookieIn_csrf held]
          rfl
  | some session =>
      have first := each.session session rfl
      have whole : ';' ∉ ("unifises=" ++ session).toList := unbroken (by decide) first
      cases csrf with
      | none =>
          rw [line, cookiesIn, List.splitOn_eq_singleton whole, List.map_singleton,
            cookieIn_session first]
          rfl
      | some csrf =>
          have second := each.csrf csrf rfl
          have next : ';' ∉ ' ' :: ("csrf_token=" ++ csrf).toList :=
            List.not_mem_cons_of_ne_of_not_mem (by decide) (unbroken (by decide) second)
          have halves : ("unifises=" ++ session ++ "; csrf_token=" ++ csrf).toList =
              ("unifises=" ++ session).toList ++ ';' :: ' ' :: ("csrf_token=" ++ csrf).toList := by
            simp
          rw [line, cookiesIn, halves, List.splitOn_append_cons_self_of_not_mem whole,
            List.splitOn_eq_singleton next, List.map_cons, List.map_singleton, cookieIn_blank_cons,
            cookieIn_session first, cookieIn_csrf second]
          rfl

/-- The tokens that cookies name. -/
def ofCookies (cookies : List (String × String)) : Tokens :=
  ⟨cookies.lookup sessionName, cookies.lookup csrfName⟩

theorem ofCookies_pairs (tokens : Tokens) : ofCookies tokens.pairs = tokens := by
  obtain ⟨session, csrf⟩ := tokens
  cases session <;> cases csrf <;> rfl

/-- A header is there exactly if a token is, and read as cookies it gives the tokens held under
their names, and no others. -/
structure Shown (tokens : Tokens) : Prop where
  held : tokens.Each IsToken
  absent : tokens.header? = none ↔ tokens.session = none ∧ tokens.csrf = none
  cookies : cookiesIn tokens.header? = tokens.pairs
  named : ofCookies (cookiesIn tokens.header?) = tokens

theorem Reached.shown (reached : tokens.Reached) : tokens.Shown where
  held := reached.isToken
  absent := by
    rw [header?_eq_line]
    obtain ⟨session, csrf⟩ := tokens
    cases session <;> cases csrf <;> simp [line]
  cookies := cookiesIn_header? reached.isToken
  named := by
    rw [cookiesIn_header? reached.isToken]
    exact ofCookies_pairs tokens

/-- The header determines the tokens that a client can come to hold. -/
theorem Reached.header_determines (reached : tokens.Reached) :
    tokens.Shown ∧ ∀ {other : Tokens}, other.Reached → other.header? = tokens.header? →
      other = tokens := by
  refine ⟨reached.shown, fun {other} otherReached same => ?_⟩
  rw [← otherReached.shown.named, same, reached.shown.named]

theorem header_determines_sample :
    let answer : Answer := ⟨200, [("set-cookie", "unifises=\t a=\"b c\", é ; Path=/"),
      ("set-cookie", "csrf_token =x=; Secure")], [], true, []⟩
    let tokens := Tokens.empty.absorb answer.cookies
    tokens.Reached ∧ tokens.header? = some "unifises=a=\"b c\", é; csrf_token=x=" ∧
      tokens.Shown ∧ ∀ {other : Tokens}, other.Reached → other.header? = tokens.header? →
        other = tokens := by
  intro answer tokens
  have reached : tokens.Reached := .answered answer .fresh
  exact ⟨reached, by decide +kernel, reached.header_determines⟩

end Tokens

end NetConsole
