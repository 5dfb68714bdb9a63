import NetConsole.Proofs.Json.Numbers
import NetConsole.Toml.Document
import NetConsole.Toml.Printer
import Mathlib.Data.List.Basic

/-!
# Reading a string that was written

A string is written in one of four forms, and a key in one of three. Every form is read back as the
characters it was written for, up to where it ends. The forms of several lines end in three quotes
and may hold up to two before those, so they are followed through with the quotes that were met and
not yet told from the end.
-/

set_option autoImplicit false

namespace NetConsole.Toml

/-! ## Characters -/

/-- The ways to write a character between double quotes that are the same on one line and on
several. -/
inductive Spells : Char → List Char → Prop where
  | letter {letter c : Char} : letter ≠ 'u' → letter ≠ 'U' → escaped? letter = some c →
      Spells c ['\\', letter]
  | number {a b c d char : Char} : charOfHex? [a, b, c, d] = some char →
      Spells char ['\\', 'u', a, b, c, d]
  | plain {c : Char} : isPlain c = true → c ≠ '\\' → c ≠ '"' → Spells c [c]

theorem isPlain_of_not_needsEscape {c : Char} (free : needsEscape c = false) (inside : c ≠ '\n') :
    isPlain c = true := by
  by_cases tab : c = '\t'
  · subst tab
    rfl
  · simp only [needsEscape, isPlain, Bool.or_eq_false_iff, Bool.and_eq_false_iff, Bool.or_eq_true,
      Bool.and_eq_true, decide_eq_false_iff_not, decide_eq_true_eq, bne_iff_ne, beq_eq_false_iff_ne,
      bne_eq_false_iff_eq] at free ⊢
    obtain ⟨(high | rfl) | rfl, other⟩ := free
    · exact .inr ⟨by omega, other⟩
    · exact absurd rfl tab
    · exact absurd rfl inside

theorem charOfHex?_fourDigits {n : Nat} (small : n < 0x80) :
    charOfHex? (fourDigits n) = some (Char.ofNat n) := by
  have every : ∀ n < 0x80, charOfHex? (fourDigits n) = some (Char.ofNat n) := by decide +kernel
  exact every n small

theorem spells_escapedChar {several : Bool} {c : Char} (quote : c ≠ '"')
    (inside : several = false ∨ c ≠ '\n') : Spells c (escapedChar several c) := by
  by_cases backspace : c.toNat = 8
  · have same : c = Char.ofNat 8 := by rw [← backspace, Char.ofNat_toNat]
    subst same
    exact .letter (by decide) (by decide) rfl
  by_cases tab : c = '\t'
  · subst tab
    exact .letter (by decide) (by decide) rfl
  by_cases newLine : c = '\n'
  · subst newLine
    obtain rfl : several = false := inside.resolve_right fun apart => apart rfl
    exact .letter (by decide) (by decide) rfl
  by_cases formFeed : c.toNat = 12
  · have same : c = Char.ofNat 12 := by rw [← formFeed, Char.ofNat_toNat]
    subst same
    exact .letter (by decide) (by decide) rfl
  by_cases carriageReturn : c = '\r'
  · subst carriageReturn
    exact .letter (by decide) (by decide) rfl
  by_cases backslash : c = '\\'
  · subst backslash
    exact .letter (by decide) (by decide) rfl
  rw [escapedChar, if_neg backspace, if_neg tab, if_neg newLine, if_neg formFeed,
    if_neg carriageReturn, if_neg backslash]
  by_cases control : needsEscape c = true
  · have small : c.toNat < 0x80 := by
      simp only [needsEscape, Bool.or_eq_true, Bool.and_eq_true, decide_eq_true_eq,
        beq_iff_eq] at control
      omega
    have number := charOfHex?_fourDigits small
    rw [if_pos control]
    rw [Char.ofNat_toNat] at number
    exact .number number
  · have shown := isPlain_of_not_needsEscape (Bool.eq_false_iff.mpr control) newLine
    rw [if_neg control]
    exact .plain shown backslash quote

theorem Spells.basicString {c : Char} {spelled : List Char} (spells : Spells c spelled)
    (rest : List Char) : basicString (spelled ++ rest) = before c (basicString rest) := by
  cases spells with
  | letter notShort notLong stands => simp [Toml.basicString, notShort, notLong, stands]
  | number stands => simp [Toml.basicString, stands]
  | plain plain backslash quote => simp [Toml.basicString, plain, backslash]

theorem Spells.basicLines {c : Char} {spelled : List Char} (spells : Spells c spelled)
    (rest : List Char) :
    basicLines false (spelled ++ rest) = before c (basicLines false rest) := by
  cases spells with
  | letter notShort notLong stands => simp [Toml.basicLines, notShort, notLong, stands]
  | number stands => simp [Toml.basicLines, stands]
  | plain plain backslash quote =>
      have notReturn : c ≠ '\r' := by
        rintro rfl
        cases plain
      have notFeed : c ≠ '\n' := by
        rintro rfl
        cases plain
      simp [Toml.basicLines, plain, backslash, quote, notReturn]

/-- A character that is written in its own way does not look like the end of the string or of a
line. -/
theorem Spells.head {c : Char} {spelled : List Char} (spells : Spells c spelled) :
    ∃ first more, spelled = first :: more ∧ first ≠ '"' ∧ first ≠ '\n' ∧ first ≠ '\r' := by
  cases spells with
  | letter | number => exact ⟨_, _, rfl, by decide, by decide, by decide⟩
  | plain plain backslash quote =>
      refine ⟨c, [], rfl, quote, ?_, ?_⟩
      all_goals
        rintro rfl
        cases plain

/-! ## One line -/

theorem basicString_escapedChars (cs rest : List Char) (run : Nat) :
    basicString (escapedChars false 0 run cs ++ '"' :: rest) = some (cs, rest) := by
  induction cs generalizing run with
  | nil => simp [escapedChars, basicString]
  | cons c cs ih =>
      by_cases quote : c = '"'
      · subst quote
        have spells : Spells '"' ['\\', '"'] := .letter (by decide) (by decide) rfl
        have read := spells.basicString (escapedChars false 0 0 cs ++ '"' :: rest)
        rw [ih] at read
        simpa [escapedChars, before] using read
      · have spells : Spells c (escapedChar false c) := spells_escapedChar quote (.inl rfl)
        rw [escapedChars, if_neg quote, List.append_assoc, spells.basicString, ih]
        rfl

theorem literalString_append {cs : List Char} (rest : List Char)
    (plain : ∀ c ∈ cs, isPlain c = true) (free : '\'' ∉ cs) :
    literalString (cs ++ '\'' :: rest) = some (cs, rest) := by
  induction cs with
  | nil => simp [literalString]
  | cons c cs ih =>
      obtain ⟨first, later⟩ := List.forall_mem_cons.mp plain
      simp only [List.mem_cons, not_or] at free
      simp [literalString, first, Ne.symm free.1, ih later free.2, before]

/-! ## Several lines -/

theorem closing_quotes (quote : Char) {run : Nat} (few : run ≤ 2) {rest : List Char}
    (ends : rest.head? ≠ some quote) :
    closing quote (quotes run quote ++ rest) = (quotes run quote, rest) := by
  obtain rfl | rfl | rfl : run = 0 ∨ run = 1 ∨ run = 2 := by omega
  all_goals
    cases rest with
    | nil => simp [quotes, closing]
    | cons c more =>
        have apart : c ≠ quote := by simpa using ends
        cases more <;> simp [quotes, closing, apart, List.replicate_succ]

/-- Quotes before another character are characters of the string. -/
theorem basicLines_quotes {run : Nat} (few : run ≤ 2) {first : Char} (apart : first ≠ '"')
    (rest : List Char) {cs after : List Char}
    (read : basicLines false (first :: rest) = some (cs, after)) :
    basicLines false (quotes run '"' ++ first :: rest) = some (quotes run '"' ++ cs, after) := by
  obtain rfl | rfl | rfl : run = 0 ∨ run = 1 ∨ run = 2 := by omega
  · exact read
  · simp [quotes, basicLines, apart, read, before, isPlain]
  · simp [quotes, List.replicate_succ, basicLines, apart, read, before, isPlain]

/-- Quotes before the end of the string are characters of it as well. -/
theorem basicLines_closing {run : Nat} (few : run ≤ 2) {rest : List Char}
    (ends : rest.head? ≠ some '"') :
    basicLines false (quotes run '"' ++ (quotes 3 '"' ++ rest)) = some (quotes run '"', rest) := by
  have moved : quotes run '"' ++ (quotes 3 '"' ++ rest) =
      '"' :: '"' :: '"' :: (quotes run '"' ++ rest) := by
    obtain rfl | rfl | rfl : run = 0 ∨ run = 1 ∨ run = 2 := by omega
    all_goals rfl
  rw [moved, basicLines, closing_quotes '"' few ends]

theorem basicLines_escapedChars (cs : List Char) {rest : List Char}
    (ends : rest.head? ≠ some '"') {run : Nat} (few : run ≤ 2) :
    basicLines false (quotes run '"' ++ (escapedChars true 2 run cs ++ (quotes 3 '"' ++ rest))) =
      some (quotes run '"' ++ cs, rest) := by
  induction cs generalizing run with
  | nil => simpa [escapedChars] using basicLines_closing few ends
  | cons c cs ih =>
      -- what is written for the character, if it does not go on with a run of quotes
      have follows {spelled : List Char} {first : Char} {more : List Char}
          (shape : spelled = first :: more) (apart : first ≠ '"')
          (read : basicLines false (spelled ++ (escapedChars true 2 0 cs ++ (quotes 3 '"' ++ rest)))
            = before c (basicLines false (escapedChars true 2 0 cs ++ (quotes 3 '"' ++ rest)))) :
          basicLines false (quotes run '"' ++
            (spelled ++ (escapedChars true 2 0 cs ++ (quotes 3 '"' ++ rest)))) =
              some (quotes run '"' ++ c :: cs, rest) := by
        have later : basicLines false (escapedChars true 2 0 cs ++ (quotes 3 '"' ++ rest)) =
            some (cs, rest) := ih (Nat.zero_le 2)
        rw [later] at read
        subst shape
        exact basicLines_quotes few apart _ read
      by_cases quote : c = '"'
      · subst quote
        by_cases more : run < 2
        · have longer := ih (Nat.succ_le_of_lt more)
          simpa [escapedChars, more, quotes, List.replicate_succ'] using longer
        · have spells : Spells '"' ['\\', '"'] := .letter (by decide) (by decide) rfl
          rw [escapedChars, if_pos rfl, if_neg more]
          exact follows rfl (by decide) (spells.basicLines _)
      · rw [escapedChars, if_neg quote, List.append_assoc]
        by_cases feed : c = '\n'
        · subst feed
          exact follows rfl (by decide) (by simp [escapedChar, basicLines])
        · have spells : Spells c (escapedChar true c) := spells_escapedChar quote (.inr feed)
          obtain ⟨first, more, shape, apart, -⟩ := spells.head
          exact follows shape apart (spells.basicLines _)

theorem literalLines_cons {c : Char} {rest : List Char} (plain : isPlain c = true)
    (goesOn : c = '\'' → ∀ more, rest ≠ '\'' :: '\'' :: more) :
    literalLines (c :: rest) = before c (literalLines rest) := by
  have notReturn : c ≠ '\r' := by
    rintro rfl
    cases plain
  have notFeed : c ≠ '\n' := by
    rintro rfl
    cases plain
  by_cases quote : c = '\''
  · have further := goesOn quote
    simp [literalLines, plain, notReturn, further]
  · simp [literalLines, plain, notReturn, quote]

theorem literalLines_append {cs : List Char} {rest : List Char} (ends : rest.head? ≠ some '\'')
    (plain : ∀ c ∈ cs, c = '\n' ∨ isPlain c = true) (runs : longestRun '\'' cs ≤ 2) :
    literalLines (cs ++ (quotes 3 '\'' ++ rest)) = some (cs, rest) := by
  induction cs with
  | nil => simpa [literalLines, quotes] using closing_quotes '\'' (Nat.zero_le 2) ends
  | cons c cs ih =>
      obtain ⟨first, later⟩ := List.forall_mem_cons.mp plain
      obtain ⟨here, shorter⟩ := Nat.max_le.mp runs
      have read := ih later shorter
      rcases first with rfl | first
      · simp [literalLines, read, before]
      have step (goesOn : c = '\'' → ∀ more, cs ++ (quotes 3 '\'' ++ rest) ≠ '\'' :: '\'' :: more) :
          literalLines (c :: cs ++ (quotes 3 '\'' ++ rest)) = some (c :: cs, rest) := by
        rw [List.cons_append, literalLines_cons first goesOn, read]
        rfl
      by_cases quote : c = '\''
      · subst quote
        -- a quote ends the string only if two more follow it
        cases cs with
        | nil => simpa [literalLines, quotes] using closing_quotes '\'' (Nat.le_succ 1) ends
        | cons d more =>
            by_cases second : d = '\''
            · subst second
              cases more with
              | nil => simpa [literalLines, quotes] using closing_quotes '\'' (Nat.le_refl 2) ends
              | cons e more =>
                  have third : e ≠ '\'' := by
                    rintro rfl
                    simp [List.takeWhile] at here
                  exact step fun _ => by simp [third]
            · exact step fun _ => by simp [second]
      · exact step fun same => absurd same quote

/-! ## The four forms -/

theorem longestRun_eq_zero {quote : Char} {cs : List Char} (none : longestRun quote cs = 0) :
    quote ∉ cs := by
  induction cs with
  | nil => exact List.not_mem_nil
  | cons c cs ih =>
      obtain ⟨here, later⟩ := Nat.max_eq_zero_iff.mp none
      intro member
      rcases List.mem_cons.mp member with rfl | inside
      · simp at here
      · exact ih later inside

theorem head_escapedChars {several : Bool} {allowed run : Nat} {cs : List Char}
    (inside : several = false ∨ '\n' ∉ cs) (rest : List Char) :
    ∀ first ∈ (escapedChars several allowed run cs ++ '"' :: rest).head?,
      first ≠ '\n' ∧ first ≠ '\r' ∧ (allowed ≤ run → cs ≠ [] → first ≠ '"') := by
  cases cs with
  | nil => simp [escapedChars]
  | cons c cs =>
      by_cases quote : c = '"'
      · subst quote
        by_cases more : run < allowed
        · simp [escapedChars, more]
        · simp [escapedChars, more]
      · have apart : several = false ∨ c ≠ '\n' :=
          inside.imp_right fun missing same => missing (same ▸ List.mem_cons_self)
        obtain ⟨first, more, shape, notQuote, notFeed, notReturn⟩ :=
          (spells_escapedChar quote apart).head
        simp [escapedChars, quote, shape, notQuote, notFeed, notReturn]

theorem string_basicChars (cs : List Char) {rest : List Char} (ends : rest.head? ≠ some '"') :
    string (basicChars cs ++ rest) = some (cs, rest) := by
  have read := basicString_escapedChars cs rest 0
  have text : basicChars cs ++ rest = '"' :: (escapedChars false 0 0 cs ++ '"' :: rest) := by
    simp [basicChars]
  rw [text]
  cases cs with
  | nil =>
      cases rest with
      | nil => exact read
      | cons c rest =>
          have apart : c ≠ '"' := by simpa using ends
          simpa [string, escapedChars, apart] using read
  | cons c cs =>
      have starts : ∀ first ∈ (escapedChars false 0 0 (c :: cs) ++ '"' :: rest).head?,
          first ≠ '\n' ∧ first ≠ '\r' ∧ (0 ≤ 0 → c :: cs ≠ [] → first ≠ '"') :=
        head_escapedChars (.inl rfl) rest
      generalize escapedChars false 0 0 (c :: cs) ++ '"' :: rest = body at read starts
      cases body with
      | nil => exact read
      | cons first body =>
          obtain ⟨-, -, apart⟩ := starts first rfl
          have notQuote := apart (Nat.le_refl 0) (List.cons_ne_nil c cs)
          simpa [string, notQuote] using read

theorem string_literalChars {cs rest : List Char} (plain : ∀ c ∈ cs, isPlain c = true)
    (free : '\'' ∉ cs) (ends : rest.head? ≠ some '\'') :
    string ('\'' :: (cs ++ ['\'']) ++ rest) = some (cs, rest) := by
  have read := literalString_append rest plain free
  have text : '\'' :: (cs ++ ['\'']) ++ rest = '\'' :: (cs ++ '\'' :: rest) := by simp
  rw [text]
  cases cs with
  | nil =>
      cases rest with
      | nil => exact read
      | cons c rest =>
          have apart : c ≠ '\'' := by simpa using ends
          simpa [string, apart] using read
  | cons c cs =>
      have apart : c ≠ '\'' := fun same => free (same ▸ List.mem_cons_self)
      simpa [string, apart] using read

/-- The line end after the first quotes is no part of the string, and there is one if the string
begins with a line end itself. -/
theorem withoutFirstLineEnd_opened {cs body : List Char}
    (starts : '\n' ∉ cs → ∀ first ∈ body.head?, first ≠ '\n' ∧ first ≠ '\r') :
    withoutFirstLineEnd ((if cs.contains '\n' then ['\n'] else []) ++ body) = body := by
  by_cases breaks : '\n' ∈ cs
  · simp [breaks, withoutFirstLineEnd, afterLineEnd?]
  · cases body with
    | nil => simp [breaks, withoutFirstLineEnd, afterLineEnd?]
    | cons c rest =>
        obtain ⟨notFeed, notReturn⟩ := starts breaks c rfl
        simp [breaks, withoutFirstLineEnd, afterLineEnd?, notFeed, notReturn]

theorem string_basicLinesChars (cs : List Char) {rest : List Char} (ends : rest.head? ≠ some '"') :
    string (basicLinesChars cs ++ rest) = some (cs, rest) := by
  have text : basicLinesChars cs ++ rest = '"' :: '"' :: '"' ::
      ((if cs.contains '\n' then ['\n'] else []) ++
        (escapedChars true 2 0 cs ++ (quotes 3 '"' ++ rest))) := by
    simp [basicLinesChars, quotes, List.replicate_succ]
  rw [text, string, withoutFirstLineEnd_opened]
  · exact basicLines_escapedChars cs ends (Nat.zero_le 2)
  · intro missing first starts
    have apart := head_escapedChars (.inr missing) ('"' :: '"' :: rest) first starts
    exact ⟨apart.1, apart.2.1⟩

theorem string_literalLinesChars {cs rest : List Char}
    (plain : ∀ c ∈ cs, c = '\n' ∨ isPlain c = true) (runs : longestRun '\'' cs ≤ 2)
    (ends : rest.head? ≠ some '\'') :
    string (literalLinesChars cs ++ rest) = some (cs, rest) := by
  have text : literalLinesChars cs ++ rest = '\'' :: '\'' :: '\'' ::
      ((if cs.contains '\n' then ['\n'] else []) ++ (cs ++ (quotes 3 '\'' ++ rest))) := by
    simp [literalLinesChars, quotes, List.replicate_succ]
  rw [text, string, withoutFirstLineEnd_opened]
  · exact literalLines_append ends plain runs
  · intro missing first starts
    cases cs with
    | nil =>
        cases starts
        exact ⟨by decide, by decide⟩
    | cons c cs =>
        obtain rfl : c = first := by simpa using starts
        have notFeed : c ≠ '\n' := fun same => missing (same ▸ List.mem_cons_self)
        have shown : isPlain c = true := (plain c List.mem_cons_self).resolve_left notFeed
        refine ⟨notFeed, ?_⟩
        rintro rfl
        cases shown

/-- A string is read back from the text that it is written as, if no other quote follows. -/
theorem string_stringChars (cs : List Char) {rest : List Char} (noDouble : rest.head? ≠ some '"')
    (noSingle : rest.head? ≠ some '\'') : string (stringChars cs ++ rest) = some (cs, rest) := by
  have plain (free : cs.any needsEscape = false) (c : Char) (member : c ∈ cs) :
      c = '\n' ∨ isPlain c = true := by
    by_cases feed : c = '\n'
    · exact .inl feed
    · have shown : needsEscape c = false := by simpa using List.any_eq_false.mp free c member
      exact .inr (isPlain_of_not_needsEscape shown feed)
  unfold stringChars
  dsimp only
  split
  · exact string_basicChars cs noDouble
  split
  case _ bare =>
    simp only [Bool.and_eq_true, Bool.not_eq_true', beq_iff_eq] at bare
    obtain ⟨⟨free, none⟩, oneLine⟩ := bare
    refine string_literalChars (fun c member => ?_) (longestRun_eq_zero none) noSingle
    have missing : '\n' ∉ cs := by simpa using oneLine
    exact (plain free c member).resolve_left fun same => missing (same ▸ member)
  split
  · exact string_basicLinesChars cs noDouble
  split
  case _ bare =>
    simp only [Bool.and_eq_true, Bool.not_eq_true', decide_eq_true_eq] at bare
    exact string_literalLinesChars (plain bare.1) bare.2 noSingle
  split
  · exact string_basicLinesChars cs noDouble
  · exact string_basicChars cs noDouble

/-! ## Keys -/

/-- A step of a key is read back from the text that it is written as, if that does not go on. -/
theorem simpleKey_keyChars (key : String) {rest : List Char}
    (ends : ∀ c ∈ rest.head?, isBare c = false) :
    simpleKey (keyChars key ++ rest) = some (key, rest) := by
  have quoted : simpleKey (basicChars key.toList ++ rest) = some (key, rest) := by
    have text : basicChars key.toList ++ rest =
        '"' :: (escapedChars false 0 0 key.toList ++ '"' :: rest) := by simp [basicChars]
    rw [text, simpleKey, basicString_escapedChars]
    simp
  unfold keyChars
  dsimp only
  split
  case _ bare =>
    simp only [Bool.and_eq_true, List.all_eq_true, Bool.not_eq_true',
      List.isEmpty_eq_false_iff] at bare
    obtain ⟨given, all⟩ := bare
    obtain ⟨word, after⟩ := Json.takeWhile_append_of_ends (p := isBare) all ends
    rw [simpleKey, word, after]
    · cases shape : key.toList with
      | nil => exact absurd shape given
      | cons c cs => simp [← shape]
    all_goals
      intro more starts
      cases shape : key.toList with
      | nil => exact given shape
      | cons c cs =>
          rw [shape] at starts all
          cases starts
          cases all _ List.mem_cons_self
  split
  · exact quoted
  split
  case _ bare =>
    simp only [Bool.and_eq_true, Bool.not_eq_true', List.any_eq_false, Bool.or_eq_true, not_or,
      Bool.not_eq_true, beq_iff_eq, List.contains_eq_mem, decide_eq_false_iff_not] at bare
    obtain ⟨free, missing⟩ := bare
    have plain (c : Char) (member : c ∈ key.toList) : isPlain c = true :=
      isPlain_of_not_needsEscape (free c member).1 (free c member).2
    rw [List.cons_append, List.append_assoc, List.singleton_append, simpleKey,
      literalString_append rest plain missing]
    simp
  · exact quoted

/-- Whether a character can be the first one of a step of a key. -/
def opensKey (c : Char) : Bool := isBare c || c == '"' || c == '\''

theorem head_keyChars (key : String) :
    ∃ first more, keyChars key = first :: more ∧ opensKey first = true := by
  unfold keyChars
  dsimp only
  split
  case _ bare =>
    simp only [Bool.and_eq_true, List.all_eq_true, Bool.not_eq_true',
      List.isEmpty_eq_false_iff] at bare
    obtain ⟨given, all⟩ := bare
    obtain ⟨first, more, shape⟩ := List.exists_cons_of_ne_nil given
    have shown : isBare first = true := all first (shape ▸ List.mem_cons_self)
    exact ⟨first, more, shape, by simp [opensKey, shown]⟩
  split
  · exact ⟨'"', _, rfl, rfl⟩
  split
  · exact ⟨'\'', _, rfl, rfl⟩
  · exact ⟨'"', _, rfl, rfl⟩

end NetConsole.Toml
