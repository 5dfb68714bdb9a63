import NetConsole.Client.Tokens
import NetConsole.Client.Http
import Mathlib.Data.List.Induction

/-!
# What bears on the tokens

A log of what happened to a client: requests that went out, answers whose headers arrived, and
resets. `heldBy` reads off such a log which tokens ought to be held: of each name the value issued
last since the last reset, unless it is empty. Folding the log into the tokens comes to the same.
-/

set_option autoImplicit false

namespace NetConsole

/-- What happens to a client that bears on its tokens. -/
inductive Happening where
  /-- the tokens are dropped -/
  | reset
  /-- a request goes out -/
  | request (sent : Sent)
  /-- the headers of an answer arrive, with these cookies -/
  | cookies (list : List (String × String))

namespace Happening

/-! ## What a log says -/

/-- The cookies set since the last reset, in their order. -/
def sinceReset (log : List Happening) : List (String × String) :=
  log.foldl (fun cookies happening => match happening with
    | .reset => []
    | .request _ => cookies
    | .cookies list => cookies ++ list) []

/-- The value issued last for a name since the last reset. -/
def lastIssued (name : String) (log : List Happening) : Option String :=
  ((sinceReset log).filter (·.1 == name)).getLast?.map (·.2)

/-- The token that ought to be held for a name: the value issued last, unless that is empty. -/
def heldFor (name : String) (log : List Happening) : Option String :=
  (lastIssued name log).filter (· ≠ "")

/-- The tokens that ought to be held after a log that begins with none. -/
def heldBy (log : List Happening) : Tokens :=
  ⟨heldFor Tokens.sessionName log, heldFor Tokens.csrfName log⟩

/-- A happening has no part in the token of a name. -/
def Spares (name : String) : Happening → Prop
  | .reset => False
  | .request _ => True
  | .cookies list => ∀ cookie ∈ list, cookie.1 ≠ name

theorem sinceReset_append_reset (log : List Happening) : sinceReset (log ++ [.reset]) = [] := by
  simp [sinceReset]

theorem sinceReset_append_request (log : List Happening) (sent : Sent) :
    sinceReset (log ++ [.request sent]) = sinceReset log := by
  simp [sinceReset]

theorem sinceReset_append_cookies (log : List Happening) (list : List (String × String)) :
    sinceReset (log ++ [.cookies list]) = sinceReset log ++ list := by
  simp [sinceReset]

theorem heldFor_append_reset (name : String) (log : List Happening) :
    heldFor name (log ++ [.reset]) = none := by
  simp [heldFor, lastIssued, sinceReset_append_reset]

theorem heldFor_append_request (name : String) (log : List Happening) (sent : Sent) :
    heldFor name (log ++ [.request sent]) = heldFor name log := by
  simp only [heldFor, lastIssued, sinceReset_append_request]

/-- Of the cookies of one answer only the last of a name counts for it; if there is none, what was
held before stays. -/
theorem heldFor_append_cookies (name : String) (log : List Happening)
    (list : List (String × String)) :
    heldFor name (log ++ [.cookies list]) =
      match (list.filter (·.1 == name)).getLast? with
      | some cookie => Tokens.issued cookie.2
      | none => heldFor name log := by
  simp only [heldFor, lastIssued, sinceReset_append_cookies, List.filter_append,
    List.getLast?_append]
  cases (list.filter (·.1 == name)).getLast? with
  | none => rfl
  | some cookie =>
      by_cases blank : cookie.2 = ""
      · simp [Tokens.issued, blank]
      · simp [Tokens.issued, blank, Option.filter]

end Happening

namespace Tokens

open Happening

/-! ## Folding a log into the tokens -/

/-- The tokens after a happening. -/
def follow (tokens : Tokens) : Happening → Tokens
  | .reset => empty
  | .request _ => tokens
  | .cookies list => tokens.absorb list

/-- The tokens after a log. -/
def after (tokens : Tokens) (log : List Happening) : Tokens := log.foldl follow tokens

@[simp] theorem after_nil (tokens : Tokens) : tokens.after [] = tokens := rfl

@[simp] theorem after_cons (tokens : Tokens) (happening : Happening) (log : List Happening) :
    tokens.after (happening :: log) = (tokens.follow happening).after log := rfl

@[simp] theorem after_append (tokens : Tokens) (first second : List Happening) :
    tokens.after (first ++ second) = (tokens.after first).after second :=
  List.foldl_append

theorem sessionName_ne_csrfName : sessionName ≠ csrfName := by decide

theorem set_session (tokens : Tokens) (cookie : String × String) :
    (tokens.set cookie).session =
      if cookie.1 = sessionName then issued cookie.2 else tokens.session := by
  unfold set
  split
  · rfl
  · split <;> rfl

theorem set_csrf (tokens : Tokens) (cookie : String × String) :
    (tokens.set cookie).csrf = if cookie.1 = csrfName then issued cookie.2 else tokens.csrf := by
  unfold set
  split
  · next named => rw [if_neg fun same => sessionName_ne_csrfName (named.symm.trans same)]
  · split <;> rfl

theorem absorb_append (tokens : Tokens) (list : List (String × String))
    (cookie : String × String) :
    tokens.absorb (list ++ [cookie]) = (tokens.absorb list).set cookie := by
  simp [absorb]

theorem absorb_session (tokens : Tokens) (list : List (String × String)) :
    (tokens.absorb list).session =
      match (list.filter (·.1 == sessionName)).getLast? with
      | some cookie => issued cookie.2
      | none => tokens.session := by
  induction list using List.reverseRecOn with
  | nil => rfl
  | append_singleton list cookie ih =>
      rw [absorb_append, set_session, ih, List.filter_append]
      by_cases named : cookie.1 = sessionName <;> simp [named]

theorem absorb_csrf (tokens : Tokens) (list : List (String × String)) :
    (tokens.absorb list).csrf =
      match (list.filter (·.1 == csrfName)).getLast? with
      | some cookie => issued cookie.2
      | none => tokens.csrf := by
  induction list using List.reverseRecOn with
  | nil => rfl
  | append_singleton list cookie ih =>
      rw [absorb_append, set_csrf, ih, List.filter_append]
      by_cases named : cookie.1 = csrfName <;> simp [named]

/-- What a log says ought to be held is what folding it into no tokens comes to. -/
theorem empty_after (log : List Happening) : empty.after log = heldBy log := by
  induction log using List.reverseRecOn with
  | nil => rfl
  | append_singleton log happening ih =>
      rw [after_append, ih, after_cons, after_nil]
      cases happening with
      | reset => simp only [heldBy, heldFor_append_reset]; rfl
      | request sent => simp only [heldBy, heldFor_append_request]; rfl
      | cookies list =>
          have session := absorb_session (heldBy log) list
          have csrf := absorb_csrf (heldBy log) list
          simp only [heldBy, heldFor_append_cookies] at session csrf ⊢
          rw [← session, ← csrf]
          rfl

/-! ## One token of the two -/

/-- What is held of a name is settled by the cookies of that name alone. -/
def Settles (held : Tokens → Option String) (name : String) : Prop :=
  ∀ (tokens : Tokens) (list : List (String × String)), held (tokens.absorb list) =
    match (list.filter (·.1 == name)).getLast? with
    | some cookie => issued cookie.2
    | none => held tokens

theorem settles_session : Settles session sessionName := absorb_session

theorem settles_csrf : Settles csrf csrfName := absorb_csrf

section Settles

variable {held : Tokens → Option String} {name : String} {log earlier later : List Happening}

theorem Settles.after_spared (settles : Settles held name) (tokens : Tokens)
    (spared : ∀ happening ∈ log, happening.Spares name) :
    held (tokens.after log) = held tokens := by
  induction log generalizing tokens with
  | nil => rfl
  | cons happening rest ih =>
      have kept : held (tokens.follow happening) = held tokens := by
        have alone := spared happening List.mem_cons_self
        cases happening with
        | reset => cases alone
        | request sent => rfl
        | cookies list =>
            have absent : list.filter (·.1 == name) = [] := by
              simpa [List.filter_eq_nil_iff, Happening.Spares] using alone
            simp [follow, settles tokens list, absent]
      rw [after_cons, ih _ fun other member => spared other (List.mem_cons_of_mem _ member), kept]

/-- The value that an answer issues for a name stays until another answer sets that name, or the
tokens are dropped. -/
theorem Settles.after_issued (settles : Settles held name) (tokens : Tokens)
    {list : List (String × String)} {cookie : String × String}
    (last : (list.filter (·.1 == name)).getLast? = some cookie)
    (spared : ∀ happening ∈ later, happening.Spares name) :
    held (tokens.after (earlier ++ .cookies list :: later)) = issued cookie.2 := by
  simp [settles.after_spared _ spared, follow, settles _ list, last]

end Settles

/-- While nothing is dropped the tokens absorb all cookies, in the order in which they came. -/
theorem after_eq_absorb {log : List Happening} (tokens : Tokens) (kept : .reset ∉ log) :
    tokens.after log = tokens.absorb (sinceReset log) := by
  induction log using List.reverseRecOn with
  | nil => rfl
  | append_singleton log happening ih =>
      have before := ih fun member => kept (List.mem_append_left _ member)
      cases happening with
      | reset => exact absurd (List.mem_append_right log List.mem_cons_self) kept
      | request sent => simp [before, follow, sinceReset_append_request]
      | cookies list => simp [before, follow, sinceReset_append_cookies, absorb]

end Tokens

end NetConsole
