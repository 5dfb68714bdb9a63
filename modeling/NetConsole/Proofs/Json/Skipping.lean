import NetConsole.Proofs.Json.Reading

/-!
# What can be read can be passed over

Passing over a value looks at less of it than reading it does, so a value that is read of a text
could have been passed over as well. Strings are the one place where the two go different ways: a
reader takes both halves of a surrogate pair in one step.
-/

set_option autoImplicit false

namespace NetConsole.Json

open Stepwise

/-! ## Strings -/

theorem hexUnit_shorter {cs rest : List Char} {unit : Nat} (read : hexUnit cs = .ok (unit, rest)) :
    rest.length < cs.length := by
  unfold hexUnit at read
  split at read
  case h_1 =>
    split at read
    case h_1 =>
      cases read
      simp only [List.length_cons]
      omega
    case h_2 => cases read
  case h_2 => cases read

/-- An escape that is read is one unit of four digits, or two for a surrogate pair. -/
theorem unicodeEscape_units {digits rest : List Char} {c : Char}
    (read : unicodeEscape digits = .ok (c, rest)) :
    ∃ unit more, hexUnit digits = .ok (unit, more) ∧
      (rest = more ∨ ∃ second low, more = '\\' :: 'u' :: second ∧
        hexUnit second = .ok (low, rest)) := by
  unfold unicodeEscape at read
  obtain ⟨⟨unit, more⟩, first, read⟩ := bind_eq_ok.mp read
  refine ⟨unit, more, first, ?_⟩
  dsimp only at read
  split at read
  case isTrue => cases read
  case isFalse =>
    split at read
    case isTrue =>
      cases read
      exact .inl rfl
    case isFalse =>
      split at read
      case h_1 => cases read
      case h_2 => cases read
      case h_3 second =>
        obtain ⟨⟨low, after⟩, other, read⟩ := bind_eq_ok.mp read
        dsimp only at read
        split at read
        case isTrue =>
          obtain ⟨-, rfl⟩ := Prod.mk.inj (Except.ok.inj read)
          exact .inr ⟨second, low, rfl, other⟩
        case isFalse => cases read
      case h_4 => cases read

/-- A string that is read can be passed over, with fuel enough for its escapes one by one. -/
theorem skipString_of_read {fuel : Nat} {cs chars rest : List Char}
    (read : readString fuel cs = .ok (chars, rest)) {more : Nat} (enough : cs.length < more) :
    skipString more cs = .ok rest := by
  induction fuel generalizing cs chars more with
  | zero => cases read
  | succ fuel ih =>
      obtain ⟨more, rfl⟩ : ∃ less, more = less + 1 := ⟨more - 1, by omega⟩
      cases cs with
      | nil => cases read
      | cons c cs =>
          rw [List.length_cons] at enough
          unfold readString at read
          unfold skipString
          dsimp only at read ⊢
          by_cases quote : c = '"'
          · rw [if_pos quote] at read ⊢
            cases read
            rfl
          · rw [if_neg quote] at read ⊢
            by_cases escape : c = '\\'
            · rw [if_pos escape] at read ⊢
              split at read
              case h_1 => cases read
              case h_2 digits =>
                obtain ⟨⟨escaped, after⟩, units, read⟩ := bind_eq_ok.mp read
                dsimp only at read
                obtain ⟨⟨others, last⟩, later, read⟩ := bind_eq_ok.mp read
                cases read
                obtain ⟨unit, middle, first, same | ⟨second, low, same, other⟩⟩ :=
                  unicodeEscape_units units
                all_goals
                  have short := hexUnit_shorter first
                  rw [List.length_cons] at enough
                  subst same
                  simp only [first, bind, Except.bind]
                · exact ih later (by omega)
                · -- the second half of a pair is an escape of its own
                  have shorter := hexUnit_shorter other
                  simp only [List.length_cons] at short
                  obtain ⟨less, rfl⟩ : ∃ less, more = less + 1 := ⟨more - 1, by omega⟩
                  unfold skipString
                  simp only [other, bind, Except.bind]
                  exact ih later (by omega)
              case h_3 letter after other =>
                rw [List.length_cons] at enough
                split at read
                case h_1 => cases read
                case h_2 escaped simple =>
                  obtain ⟨⟨others, last⟩, later, read⟩ := bind_eq_ok.mp read
                  cases read
                  exact ih later (by omega)
            · rw [if_neg escape] at read ⊢
              by_cases control : c.toNat < 0x20
              · rw [if_pos control] at read
                cases read
              · rw [if_neg control] at read ⊢
                obtain ⟨⟨others, last⟩, later, read⟩ := bind_eq_ok.mp read
                cases read
                exact ih later (by omega)

/-! ## Trees of texts -/

/-- What can be read can be passed over. -/
def Scan.Sound {α : Type} (scan : Scan α) : Prop := ∀ found, scan.read = .ok found → scan.skip = none

theorem sound_scanString (cs : List Char) : (scanString cs).1.Sound := by
  intro found read
  unfold scanString at read ⊢
  cases skipped : skipString (cs.length + 1) cs with
  | ok rest => rfl
  | error reason =>
      rw [skipped] at read
      obtain ⟨⟨chars, rest⟩, whole, -⟩ := map_eq_ok read
      rw [skipString_of_read whole (Nat.lt_succ_self _)] at skipped
      cases skipped

theorem sound_scanNumber (cs : List Char) : (scanNumber cs).1.Sound := by
  intro found read
  unfold scanNumber at read ⊢
  cases lexed : lexNumber cs with
  | ok pair => rfl
  | error reason =>
      rw [lexed] at read
      cases read

theorem text_scanKey (cs : List Char) : (scanKey cs).1.text = (scanString cs).1 := by
  cases cs with
  | nil => rfl
  | cons c cs =>
      unfold scanKey
      dsimp only
      split
      · cases lexNumber (c :: cs) <;> rfl
      · rfl

/-- All strings and numbers in a tree that can be read can be passed over. -/
inductive Tree.Sound : Tree → Prop where
  | null : Sound .null
  | bool (b : Bool) : Sound (.bool b)
  | number {scan : Scan Number} : scan.Sound → Sound (.number scan)
  | string {scan : Scan String} : scan.Sound → Sound (.string scan)
  | array {items : List Tree} {close : Close} : (∀ item ∈ items, Sound item) →
      Sound (.array items close)
  | object {members : List (Key × Tree)} {close : Close} :
      (∀ member ∈ members, member.1.text.Sound) → (∀ member ∈ members, Sound member.2) →
      Sound (.object members close)
  | broken (reason : Reason) : Sound (.broken reason)

/-- What scanning with some fuel yields is sound, wherever it starts. -/
structure ScansSound (fuel : Nat) : Prop where
  value : ∀ cs, (scanValue fuel cs).1.Sound
  items : ∀ first cs, ∀ item ∈ (scanItems fuel first cs).1, item.Sound
  item : ∀ cs, ∀ item ∈ (scanItem fuel cs).1, item.Sound
  members : ∀ first cs, ∀ member ∈ (scanMembers fuel first cs).1,
    member.1.text.Sound ∧ member.2.Sound
  member : ∀ cs, ∀ member ∈ (scanMember fuel cs).1, member.1.text.Sound ∧ member.2.Sound

theorem sound_word {tree : Tree} (sound : tree.Sound) (due cs : List Char) :
    (word tree due cs).1.Sound := by
  induction due generalizing cs with
  | nil => exact sound
  | cons c due ih =>
      cases cs with
      | nil => exact .broken _
      | cons own cs =>
          rw [word]
          split
          · exact ih cs
          · exact .broken _

namespace ScansSound

variable {fuel : Nat}

theorem scanValue (scans : ScansSound fuel) (cs : List Char) :
    (Json.scanValue (fuel + 1) cs).1.Sound := by
  rw [Json.scanValue]
  split
  · exact .broken _
  · exact sound_word .null _ _
  · exact sound_word (.bool true) _ _
  · exact sound_word (.bool false) _ _
  · exact .string (sound_scanString _)
  · exact .array (scans.items true _)
  · exact .object (fun member found => (scans.members true _ member found).1)
      fun member found => (scans.members true _ member found).2
  · split
    · exact .number (sound_scanNumber _)
    · exact .broken _

theorem scanItems (scans : ScansSound fuel) (first : Bool) (cs : List Char) :
    ∀ item ∈ (Json.scanItems (fuel + 1) first cs).1, item.Sound := by
  rw [Json.scanItems]
  split
  · simp
  · simp
  · split
    · exact scans.item _
    · split
      · split
        · simp
        · simp
        · exact scans.item _
      · simp

theorem scanItem (scans : ScansSound fuel) (cs : List Char) :
    ∀ item ∈ (Json.scanItem (fuel + 1) cs).1, item.Sound := by
  have first := scans.value cs
  rw [Json.scanItem]
  split
  case h_1 item scanned =>
    rw [scanned] at first
    simpa using first
  case h_2 item rest scanned =>
    rw [scanned] at first
    exact List.forall_mem_cons.mpr ⟨first, scans.items false rest⟩

theorem scanMembers (scans : ScansSound fuel) (first : Bool) (cs : List Char) :
    ∀ member ∈ (Json.scanMembers (fuel + 1) first cs).1,
      member.1.text.Sound ∧ member.2.Sound := by
  rw [Json.scanMembers]
  split
  · simp
  · simp
  · split
    · split
      · exact scans.member _
      · simp
    · split
      · split
        · simp
        · exact scans.member _
        · simp
        · simp
      · simp

theorem scanMember (scans : ScansSound fuel) (cs : List Char) :
    ∀ member ∈ (Json.scanMember (fuel + 1) cs).1, member.1.text.Sound ∧ member.2.Sound := by
  have key : (scanKey cs).1.text.Sound := text_scanKey cs ▸ sound_scanString cs
  rw [Json.scanMember]
  split
  case h_1 own scanned =>
    rw [scanned] at key
    simpa using ⟨key, .broken _⟩
  case h_2 own rest scanned =>
    rw [scanned] at key
    split
    case h_1 => simpa using ⟨key, .broken _⟩
    case h_2 text _ =>
      have first := scans.value text
      split
      case h_1 tree found =>
        rw [found] at first
        simpa using ⟨key, first⟩
      case h_2 tree after found =>
        rw [found] at first
        exact List.forall_mem_cons.mpr ⟨⟨key, first⟩, scans.members false after⟩
    case h_3 => simpa using ⟨key, .broken _⟩

end ScansSound

theorem scansSound (fuel : Nat) : ScansSound fuel := by
  induction fuel with
  | zero =>
      constructor
      case value =>
        intro cs
        rw [scanValue]
        exact .broken _
      all_goals simp [scanItems, scanItem, scanMembers, scanMember]
  | succ fuel ih => exact ⟨ih.scanValue, ih.scanItems, ih.scanItem, ih.scanMembers, ih.scanMember⟩

theorem sound_ofChars (cs : List Char) : (Document.ofChars cs).root.Sound := by
  have sound := (scansSound (3 * cs.length + 3)).value cs
  unfold Document.ofChars
  split
  case h_1 root rest scanned =>
    rw [scanned] at sound
    exact sound
  case h_2 root scanned =>
    rw [scanned] at sound
    exact sound

/-! ## Passing over -/

theorem stopIf_eq_ok {reason? : Option Reason} : stopIf reason? = .ok () ↔ reason? = none := by
  cases reason? with
  | none => exact ⟨fun _ => rfl, fun _ => rfl⟩
  | some reason => exact ⟨nofun, nofun⟩

theorem Close.ofItems_eq_none {close : Close} : close.ofItems = none ↔ close = .closed := by
  cases close <;> simp [Close.ofItems]

theorem Close.ofMembers_eq_none {close : Close} : close.ofMembers = none ↔ close = .closed := by
  cases close <;> simp [Close.ofMembers]

namespace Tree

theorem skipItems_of_each {items : List Tree} (each : ∀ item ∈ items, item.skip = .ok ()) :
    skipItems items = .ok () := by
  induction items with
  | nil => rfl
  | cons item rest ih =>
      obtain ⟨first, others⟩ := List.forall_mem_cons.mp each
      rw [skipItems, first]
      exact ih others

theorem skipMembers_of_each {members : List (Key × Tree)}
    (each : ∀ member ∈ members, member.1.text.skip = none ∧ member.2.skip = .ok ()) :
    skipMembers members = .ok () := by
  induction members with
  | nil => rfl
  | cons member rest ih =>
      obtain ⟨key, tree⟩ := member
      obtain ⟨first, others⟩ := List.forall_mem_cons.mp each
      rw [skipMembers, first.1, first.2]
      exact ih others

theorem exists_of_values {room : Nat} {trees : List Tree} {items : List Json}
    (read : values room trees = .ok items) :
    ∀ tree ∈ trees, ∃ item, tree.value room = .ok item := by
  induction trees generalizing items with
  | nil => exact fun _ member => absurd member List.not_mem_nil
  | cons tree trees ih =>
      rw [values] at read
      obtain ⟨item, first, read⟩ := bind_eq_ok.mp read
      obtain ⟨rest, others, -⟩ := bind_eq_ok.mp read
      exact List.forall_mem_cons.mpr ⟨⟨item, first⟩, ih others⟩

theorem exists_of_memberValues {room : Nat} {trees : List (Key × Tree)}
    {members : List (String × Json)} (read : memberValues room trees = .ok members) :
    ∀ tree ∈ trees, ∃ name value, tree.1.text.read = .ok name ∧ tree.2.value room = .ok value := by
  induction trees generalizing members with
  | nil => exact fun _ member => absurd member List.not_mem_nil
  | cons tree trees ih =>
      obtain ⟨key, tree⟩ := tree
      rw [memberValues] at read
      obtain ⟨name, named, read⟩ := bind_eq_ok.mp read
      obtain ⟨value, first, read⟩ := bind_eq_ok.mp read
      obtain ⟨rest, others, -⟩ := bind_eq_ok.mp read
      exact List.forall_mem_cons.mpr ⟨⟨name, value, named, first⟩, ih others⟩

/-- A value that is read of a text can be passed over. -/
theorem skip_of_value {tree : Tree} (sound : tree.Sound) {room : Nat} {value : Json}
    (read : tree.value room = .ok value) : tree.skip = .ok () := by
  induction sound generalizing room value with
  | null | bool => rfl
  | number sound | string sound =>
      rw [Tree.value] at read
      obtain ⟨found, inner, -⟩ := map_eq_ok read
      rw [skip, sound found inner]
      rfl
  | array each ih =>
      rw [Tree.value] at read
      obtain ⟨inner, -, read⟩ := bind_eq_ok.mp read
      obtain ⟨items, values, read⟩ := bind_eq_ok.mp read
      obtain ⟨_, ended, -⟩ := bind_eq_ok.mp read
      have close := Close.ofItems_eq_none.mp (stopIf_eq_ok.mp ended)
      rw [skip, skipItems_of_each fun item member => ?_, close]
      · rfl
      · obtain ⟨found, own⟩ := exists_of_values values item member
        exact ih item member own
  | object keys each ih =>
      rw [Tree.value] at read
      obtain ⟨inner, -, read⟩ := bind_eq_ok.mp read
      obtain ⟨members, values, read⟩ := bind_eq_ok.mp read
      obtain ⟨_, ended, -⟩ := bind_eq_ok.mp read
      have close := Close.ofMembers_eq_none.mp (stopIf_eq_ok.mp ended)
      rw [skip, skipMembers_of_each fun member there => ?_, close]
      · rfl
      · obtain ⟨name, found, named, own⟩ := exists_of_memberValues values member there
        exact ⟨keys member there name named, ih member there own⟩
  | broken reason => cases read

end Tree

end NetConsole.Json
