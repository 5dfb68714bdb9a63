import NetConsole.Proofs.Toml.Values

/-!
# Reading the lines of a document that was written

Every line of a written document does to a draft what it was written for: a header opens its table
and an entry puts its value. So a document is read as what its sections make of an empty draft, one
after the other.
-/

set_option autoImplicit false

namespace NetConsole.Toml

open Config

/-! ## Paths -/

theorem not_opensKey {c first : Char} (opens : opensKey first = true) (other : opensKey c = false) :
    first ≠ c := by
  rintro rfl
  exact Bool.false_ne_true (other.symm.trans opens)

theorem skipBlanks_cons {first : Char} (opens : opensKey first = true) (more : List Char) :
    skipBlanks (first :: more) = first :: more := by
  have notSpace : first ≠ ' ' := not_opensKey opens rfl
  have notTab : first ≠ '\t' := not_opensKey opens rfl
  simp [skipBlanks, isBlank, notSpace, notTab]

theorem skipBlanks_keyChars (key : String) (rest : List Char) :
    skipBlanks (keyChars key ++ rest) = keyChars key ++ rest := by
  obtain ⟨first, more, shape, opens⟩ := head_keyChars key
  rw [shape, List.cons_append, skipBlanks_cons opens]

/-- A path with dots between its steps. -/
def pathChars (path : List String) : List Char := ['.'].intercalate (path.map keyChars)

theorem head_pathChars {path : List String} (given : path ≠ []) :
    ∃ first more, pathChars path = first :: more ∧ opensKey first = true := by
  obtain ⟨key, path, rfl⟩ := List.exists_cons_of_ne_nil given
  obtain ⟨first, more, shape, opens⟩ := head_keyChars key
  cases path with
  | nil => exact ⟨first, more, by simp [pathChars, shape], opens⟩
  | cons next path =>
      refine ⟨first, more ++ ['.'] ++ pathChars (next :: path), ?_, opens⟩
      simp [pathChars, shape, List.intercalate_cons_cons]

theorem keySteps_pathChars {path : List String} (given : path ≠ []) {fuel : Nat}
    (enough : path.length ≤ fuel) {rest : List Char} (ends : ∀ c ∈ rest.head?, isBare c = false)
    (stops : (skipBlanks rest).head? ≠ some '.') :
    keySteps fuel (pathChars path ++ rest) = some (path, skipBlanks rest) := by
  induction path generalizing fuel with
  | nil => exact absurd rfl given
  | cons key path ih =>
      cases fuel with
      | zero => cases enough
      | succ fuel =>
          cases path with
          | nil =>
              have read := simpleKey_keyChars key ends
              have text : pathChars [key] ++ rest = keyChars key ++ rest := by simp [pathChars]
              rw [text, keySteps, skipBlanks_keyChars, read]
              simp only [Option.bind_eq_bind, Option.bind_some, Option.pure_def]
              split
              case _ dotted =>
                rw [dotted] at stops
                exact absurd rfl stops
              · rfl
          | cons next path =>
              have text : pathChars (key :: next :: path) ++ rest =
                  keyChars key ++ '.' :: (pathChars (next :: path) ++ rest) := by
                simp [pathChars, List.intercalate_cons_cons]
              have read : simpleKey (keyChars key ++ '.' :: (pathChars (next :: path) ++ rest)) =
                  some (key, '.' :: (pathChars (next :: path) ++ rest)) :=
                simpleKey_keyChars key fun c first => by
                  cases first
                  rfl
              have dot : skipBlanks ('.' :: (pathChars (next :: path) ++ rest)) =
                  '.' :: (pathChars (next :: path) ++ rest) := rfl
              have later := ih (List.cons_ne_nil next path) (Nat.le_of_succ_le_succ enough)
              rw [text, keySteps, skipBlanks_keyChars, read]
              simp [dot, later]

theorem length_le_pathChars (path : List String) : path.length ≤ (pathChars path).length := by
  induction path with
  | nil => exact Nat.zero_le _
  | cons key path ih =>
      obtain ⟨first, more, shape, -⟩ := head_keyChars key
      cases path with
      | nil => simp [pathChars, shape]
      | cons next path =>
          simp only [pathChars, List.map_cons, List.intercalate_cons_cons, shape,
            List.length_append, List.length_cons, List.length_nil] at ih ⊢
          omega

theorem keyPath_pathChars {path : List String} (given : path ≠ []) (short : path.length ≤ maxSteps)
    {fuel : Nat} (enough : (pathChars path).length ≤ fuel) (rest : List Char)
    (ends : ∀ c ∈ rest.head?, isBare c = false) (stops : (skipBlanks rest).head? ≠ some '.') :
    keyPath fuel (pathChars path ++ rest) = some (path, skipBlanks rest) := by
  have read := keySteps_pathChars given (Nat.le_trans (length_le_pathChars path) enough) ends stops
  simp [keyPath, read, short]

/-! ## Lines -/

/-- What a draft becomes by lines. Whatever number of steps is allowed beyond one for each
character, no more are taken. -/
def ReadsTo (draft : Draft) (cs : List Char) (final : Draft) : Prop :=
  ∀ fuel, cs.length < fuel → readLines fuel draft cs = some final

theorem ReadsTo.nil (draft : Draft) : ReadsTo draft [] draft := by
  intro fuel enough
  obtain ⟨fuel, rfl⟩ : ∃ less, fuel = less + 1 := ⟨fuel - 1, by omega⟩
  rfl

theorem ReadsTo.gap {draft final : Draft} {cs : List Char} (reads : ReadsTo draft cs final) :
    ReadsTo draft ('\n' :: cs) final := by
  intro fuel enough
  obtain ⟨fuel, rfl⟩ : ∃ less, fuel = less + 1 := ⟨fuel - 1, by omega⟩
  have blank : skipBlanks ('\n' :: cs) = '\n' :: cs := rfl
  rw [readLines, blank]
  exact reads fuel (by simpa using enough)

theorem header_pathChars {path : List String} (given : path ≠ []) (short : path.length ≤ maxSteps)
    {fuel : Nat} (enough : (pathChars path).length ≤ fuel) (rest : List Char) :
    header fuel [']'] (pathChars path ++ ']' :: '\n' :: rest) = some (path, rest) := by
  have blank : skipBlanks (']' :: '\n' :: rest) = ']' :: '\n' :: rest := rfl
  have read := keyPath_pathChars given short enough (']' :: '\n' :: rest)
    (fun c first => by
      cases first
      rfl)
    (by simp [blank])
  have line : afterLine? ('\n' :: rest) = some rest := rfl
  simp [header, read, blank, line]

theorem ReadsTo.header {draft next final : Draft} {path : List String} (given : path ≠ [])
    (short : path.length ≤ maxSteps) (opened : draft.openTable path = some next) {cs : List Char}
    (reads : ReadsTo next cs final) :
    ReadsTo draft ('[' :: (pathChars path ++ ']' :: '\n' :: cs)) final := by
  intro fuel enough
  obtain ⟨fuel, rfl⟩ : ∃ less, fuel = less + 1 := ⟨fuel - 1, by omega⟩
  simp only [List.length_cons, List.length_append] at enough
  have within : (pathChars path).length ≤ fuel + 1 := by omega
  have read := header_pathChars given short within cs
  have later := reads fuel (by omega)
  obtain ⟨first, more, shape, opens⟩ := head_pathChars given
  have notListed : first ≠ '[' := not_opensKey opens rfl
  have blank : skipBlanks ('[' :: (pathChars path ++ ']' :: '\n' :: cs)) =
      '[' :: (pathChars path ++ ']' :: '\n' :: cs) := rfl
  rw [readLines, blank]
  rw [shape] at read ⊢
  rw [List.cons_append] at read ⊢
  simp [notListed, read, opened, later]

theorem head_literal (literal : Literal) :
    ∃ first more, literal.chars = first :: more ∧ opensKey first = true := by
  cases literal with
  | text s =>
      obtain ⟨quote, more, shape, rfl | rfl⟩ := head_stringChars s.toList
      all_goals exact ⟨_, more, shape, rfl⟩
  | integer i =>
      cases shape : Json.integerChars i with
      | nil =>
          have digits := signed_integerChars i
          rw [shape] at digits
          exact absurd (congrArg Prod.snd digits).symm (Json.digitChars_ne_nil _)
      | cons first more =>
          refine ⟨first, more, shape, ?_⟩
          rcases mem_integerChars (shape ▸ List.mem_cons_self) with digit | rfl
          · simp [opensKey, isBare_of_isDigit digit]
          · rfl
  | flag b => cases b <;> exact ⟨_, _, rfl, rfl⟩

/-- What stands on the line of an entry. -/
theorem entryChars_append (key : String) (literal : Literal) (cs : List Char) :
    entryChars (key, literal) ++ cs =
      pathChars [key] ++ ' ' :: '=' :: ' ' :: (literal.chars ++ '\n' :: cs) := by
  simp [entryChars, pathChars]

theorem ReadsTo.entry {draft next final : Draft} {key : String} {literal : Literal}
    (fits : literal.Fits) (put : draft.put [key] literal.setting = some next) {cs : List Char}
    (reads : ReadsTo next cs final) : ReadsTo draft (entryChars (key, literal) ++ cs) final := by
  intro fuel enough
  obtain ⟨fuel, rfl⟩ : ∃ less, fuel = less + 1 := ⟨fuel - 1, by omega⟩
  rw [entryChars_append] at enough ⊢
  simp only [List.length_cons, List.length_append] at enough
  have later := reads fuel (by omega)
  have blank : skipBlanks (' ' :: '=' :: ' ' :: (literal.chars ++ '\n' :: cs)) =
      '=' :: ' ' :: (literal.chars ++ '\n' :: cs) := rfl
  have within : (pathChars [key]).length ≤ fuel + 1 := by omega
  have path := keyPath_pathChars (List.cons_ne_nil key []) (Nat.le_add_left 1 78) within
    (' ' :: '=' :: ' ' :: (literal.chars ++ '\n' :: cs))
    (fun c first => by
      cases first
      rfl)
    (by simp [blank])
  have spaced : skipBlanks (' ' :: (literal.chars ++ '\n' :: cs)) =
      literal.chars ++ '\n' :: cs := by
    obtain ⟨first, more, shape, opens⟩ := head_literal literal
    have skipped : skipBlanks (' ' :: (first :: more ++ '\n' :: cs)) =
        skipBlanks (first :: more ++ '\n' :: cs) := rfl
    rw [shape, skipped, List.cons_append, skipBlanks_cons opens]
  have written := value_chars fits fuel maxSteps cs
  have line : afterLine? ('\n' :: cs) = some cs := rfl
  obtain ⟨first, more, shape, opens⟩ := head_pathChars (List.cons_ne_nil key [])
  have notComment : first ≠ '#' := not_opensKey opens rfl
  have notFeed : first ≠ '\n' := not_opensKey opens rfl
  have notReturn : first ≠ '\r' := not_opensKey opens rfl
  have notHeader : first ≠ '[' := not_opensKey opens rfl
  rw [shape, List.cons_append] at path ⊢
  rw [readLines, skipBlanks_cons opens]
  simp [notComment, notFeed, notReturn, notHeader, path, blank, spaced, written, put, line, later]

/-! ## Sections -/

/-- A draft with further entries put into its open table. -/
def Draft.addEntries (draft : Draft) (entries : List (String × Literal)) : Option Draft :=
  entries.foldlM (fun draft entry => draft.put [entry.1] entry.2.setting) draft

/-- A draft with a further section. -/
def Draft.addSection (draft : Draft) (part : Section) : Option Draft :=
  match part.path with
  | [] => draft.addEntries part.entries
  | path => (draft.openTable path).bind fun draft => draft.addEntries part.entries

/-- A section that can be written as it is. -/
structure Section.Fits (part : Section) : Prop where
  short : part.path.length ≤ maxSteps
  entries : ∀ entry ∈ part.entries, entry.2.Fits

theorem ReadsTo.entries {draft next final : Draft} {entries : List (String × Literal)}
    (fits : ∀ entry ∈ entries, entry.2.Fits) (added : draft.addEntries entries = some next)
    {cs : List Char} (reads : ReadsTo next cs final) :
    ReadsTo draft (entries.flatMap entryChars ++ cs) final := by
  induction entries generalizing draft with
  | nil =>
      cases added
      exact reads
  | cons entry entries ih =>
      obtain ⟨key, literal⟩ := entry
      obtain ⟨here, later⟩ := List.forall_mem_cons.mp fits
      obtain ⟨between, put, rest⟩ := Option.bind_eq_some_iff.mp added
      rw [List.flatMap_cons, List.append_assoc]
      exact .entry here put (ih later rest)

theorem ReadsTo.section {draft next final : Draft} {part : Section} (fits : part.Fits)
    (added : draft.addSection part = some next) {cs : List Char} (reads : ReadsTo next cs final) :
    ReadsTo draft (part.chars ++ cs) final := by
  obtain ⟨path, entries⟩ := part
  cases path with
  | nil => exact reads.entries fits.entries added
  | cons key path =>
      obtain ⟨opened, isOpened, rest⟩ := Option.bind_eq_some_iff.mp added
      have lines := reads.entries fits.entries rest
      have text : Section.chars ⟨key :: path, entries⟩ ++ cs = '[' :: (pathChars (key :: path) ++
          ']' :: '\n' :: (entries.flatMap entryChars ++ cs)) := by
        simp [Section.chars, pathChars]
      rw [text]
      exact .header (List.cons_ne_nil key path) fits.short isOpened lines

theorem ReadsTo.sections {draft final : Draft} {parts : List Section}
    (fits : ∀ part ∈ parts, part.Fits) (added : parts.foldlM Draft.addSection draft = some final) :
    ReadsTo draft (['\n'].intercalate (parts.map Section.chars)) final := by
  induction parts generalizing draft with
  | nil =>
      cases added
      exact .nil _
  | cons part parts ih =>
      obtain ⟨here, later⟩ := List.forall_mem_cons.mp fits
      obtain ⟨between, first, rest⟩ := Option.bind_eq_some_iff.mp added
      have read := ih later rest
      cases parts with
      | nil =>
          have whole := ReadsTo.section here first read
          simpa using whole
      | cons next parts =>
          have whole := ReadsTo.section here first read.gap
          simpa [List.intercalate_cons_cons] using whole

/-- Whether a character can be the first one of a line. -/
def opensLine (c : Char) : Bool := c == '\n' || c == '[' || opensKey c

theorem head_section (part : Section) :
    ∀ first ∈ part.chars.head?, opensLine first = true := by
  obtain ⟨path, entries⟩ := part
  cases path with
  | cons key path => simp [Section.chars, opensLine]
  | nil =>
      cases entries with
      | nil => simp [Section.chars]
      | cons entry entries =>
          obtain ⟨first, more, shape, opens⟩ := head_keyChars entry.1
          simp [Section.chars, entryChars, shape, opensLine, opens]

theorem head_document (parts : List Section) :
    ∀ first ∈ (['\n'].intercalate (parts.map Section.chars)).head?, opensLine first = true := by
  cases parts with
  | nil => simp
  | cons part parts =>
      have here := head_section part
      cases parts with
      | nil => simpa using here
      | cons next parts =>
          rw [List.map_cons, List.map_cons, List.intercalate_cons_cons]
          cases shape : part.chars with
          | nil => simp [opensLine]
          | cons c more =>
              have opens := here c (by rw [shape]; rfl)
              simp [opens]

/-- A document is read as what its sections make of an empty draft, one after the other. -/
theorem read?_documentText {parts : List Section} (fits : ∀ part ∈ parts, part.Fits)
    {draft : Draft} (added : parts.foldlM Draft.addSection .empty = some draft)
    {members : Members} (closed : draft.close = some members) :
    read? (documentText parts) = some (tableOf members) := by
  have lines := ReadsTo.sections fits added
  have unmarked : (documentText parts).toList.head? ≠ some (Char.ofNat 0xFEFF) := by
    intro marked
    rw [documentText, String.toList_ofList] at marked
    cases head_document parts _ marked
  simp only [read?, unmarked, if_false, bind, pure]
  rw [documentText, String.toList_ofList, lines _ (Nat.lt_succ_self _)]
  simp [closed]

end NetConsole.Toml
