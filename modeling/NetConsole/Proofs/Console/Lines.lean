import NetConsole.Console.Run
import NetConsole.Proofs.Text.Utf8

/-!
# Lines of identifiers

In plain format each record is a line with its identifier, and nothing else is written. So the lines
of an output pair with the records, unless there is one record whose identifier is empty: of it
nothing is written, while two such records are two empty lines.
-/

set_option autoImplicit false

namespace NetConsole.Console

open Text

/-! ## Lines -/

def newline : UInt8 := 10

/-- The lines of an output, each ended by a newline. -/
def linesOf (output : List UInt8) : List (List UInt8) := (output.splitOn newline).dropLast

/-- Every line with the newline that ends it. -/
def endLines (lines : List (List UInt8)) : List UInt8 := lines.flatMap (· ++ [newline])

theorem endLines_eq_intercalate (lines : List (List UInt8)) :
    endLines lines = [newline].intercalate (lines ++ [[]]) := by
  induction lines with
  | nil => rfl
  | cons line lines ih =>
      obtain ⟨next, more, shape⟩ := List.exists_cons_of_ne_nil (l := lines ++ [[]]) (by simp)
      rw [List.cons_append, shape, List.intercalate_cons_cons, ← shape, ← ih]
      rfl

theorem linesOf_endLines {lines : List (List UInt8)} (whole : ∀ line ∈ lines, newline ∉ line) :
    linesOf (endLines lines) = lines := by
  -- the last piece is what follows the last newline, which is nothing
  have pieces : ∀ piece ∈ lines ++ [[]], newline ∉ piece := by
    intro piece member
    rcases List.mem_append.mp member with member | member
    · exact whole piece member
    · cases List.mem_singleton.mp member
      exact List.not_mem_nil
  have given : lines ++ [[]] ≠ [] := List.append_ne_nil_of_right_ne_nil _ (List.cons_ne_nil _ _)
  rw [linesOf, endLines_eq_intercalate, List.splitOn_intercalate newline pieces given]
  exact List.dropLast_concat

theorem newline_notMem_bytes {text : String} (unbroken : '\n' ∉ text.toList) :
    newline ∉ bytes text :=
  fun member => unbroken (mem_of_mem_bytes (by decide) member)

/-! ## Identifiers -/

theorem bytes_newline : bytes "\n" = [newline] := by decide

theorem bytes_intercalate {texts : List String} (given : texts ≠ []) :
    bytes ("\n".intercalate texts ++ "\n") = endLines (texts.map bytes) := by
  induction texts with
  | nil => exact absurd rfl given
  | cons text texts ih =>
      cases texts with
      | nil =>
          rw [String.intercalate_singleton, bytes_append, bytes_newline]
          exact (List.append_nil _).symm
      | cons next texts =>
          have later := ih (List.cons_ne_nil next texts)
          rw [String.intercalate_cons_cons, String.append_assoc, bytes_append, bytes_append,
            bytes_newline, later]
          rfl

theorem intercalate_eq_empty {texts : List String} :
    "\n".intercalate texts = "" ↔ texts = [] ∨ texts = [""] := by
  cases texts with
  | nil => simp
  | cons text texts =>
      cases texts with
      | nil => simp
      | cons next texts => simp [String.intercalate_cons_cons]

theorem printed_intercalate {p : Presentation} (loud : p.quiet = false) (texts : List String) :
    printed p ("\n".intercalate texts) =
      if texts = [""] then [] else endLines (texts.map bytes) := by
  -- nothing is printed of an empty text, which one empty text is when joined, as well as none
  by_cases single : texts = [""]
  · have empty := intercalate_eq_empty.mpr (.inr single)
    rw [if_pos single]
    exact if_pos (.inr empty)
  · rw [if_neg single]
    by_cases nothing : texts = []
    · subst nothing
      exact if_pos (.inr rfl)
    · have shown : ¬ (p.quiet = true ∨ "\n".intercalate texts = "") := by
        simp [loud, intercalate_eq_empty, nothing, single]
      exact (if_neg shown).trans (bytes_intercalate nothing)

/-- An output in which each identifier has its line, but one that is empty and alone. -/
structure OneEach (identifiers : List String) (output : List UInt8) : Prop where
  written : output = if identifiers = [""] then [] else endLines (identifiers.map bytes)
  lines : (∀ identifier ∈ identifiers, '\n' ∉ identifier.toList) →
    (linesOf output = identifiers.map bytes ↔ identifiers ≠ [""])

theorem oneEach_printed {p : Presentation} (loud : p.quiet = false) (identifiers : List String) :
    OneEach identifiers (printed p ("\n".intercalate identifiers)) := by
  refine ⟨printed_intercalate loud identifiers, fun unbroken => ?_⟩
  rw [printed_intercalate loud]
  by_cases single : identifiers = [""]
  · subst single
    decide
  · have whole : ∀ line ∈ identifiers.map bytes, newline ∉ line := by
      intro line member
      obtain ⟨identifier, present, rfl⟩ := List.mem_map.mp member
      exact newline_notMem_bytes (unbroken identifier present)
    rw [if_neg single, linesOf_endLines whole]
    exact iff_of_true rfl single

/-- Records in plain format are their identifiers, a line for each. -/
theorem printed_plain {p : Presentation} (plain : p.format = .plain) (loud : p.quiet = false) :
    (∀ {α : Type} (listing : Listing α) (items : List α),
      OneEach (items.map listing.identifier) (printed p (listing.text p.format items))) ∧
    ∀ {α : Type} (sheet : Sheet α) (item : α),
      OneEach [sheet.identifier item] (printed p (sheet.text p.format item)) := by
  rw [plain]
  refine ⟨fun listing items => oneEach_printed loud _, fun sheet item => ?_⟩
  have single := oneEach_printed loud [sheet.identifier item]
  rw [String.intercalate_singleton] at single
  exact single

theorem printed_plain_sample :
    let p : Presentation := ⟨.plain, false, false⟩
    p.format = .plain ∧ p.quiet = false ∧
      linesOf (printed p (collectionListing.text p.format [("", 1), ("Sites", 2)])) =
        [bytes "", bytes "Sites"] := by
  intro p
  refine ⟨rfl, rfl, ?_⟩
  have each := (printed_plain (p := p) rfl rfl).1 collectionListing [("", 1), ("Sites", 2)]
  exact (each.lines (by decide)).mpr (by decide)

/-- A store with one document, the identifier of which is empty. -/
def namelessScene : Scene where
  home := "/home"
  environment := []
  files := ⟨[(["db"], .directory),
    (["db", "C.json"], .text "\x7b\"documents\":\x7b\"1\":\x7b\"_id\":\"\"\x7d\x7d\x7d")]⟩
  wire := { reaches := fun _ => true, replies := [], sent := [] }

/-- No line is written for one document whose identifier is empty. -/
theorem show_skips_nameless :
    let run := Invocation.run
      ⟨{ storePath := some "/db", output := some .plain }, .store (.show "C")⟩ namelessScene
    ∃ store documents, Store.open? namelessScene.files "/db" = (namelessScene.files, .ok store) ∧
      store.documents "C" = .ok documents ∧ documents.map documentListing.identifier = [""] ∧
      run.result = .ok () ∧ linesOf run.output = [] := by
  intro run
  refine ⟨⟨some "/db", [("C", ⟨[(1, .object [("_id", .string "")])], [], 2⟩)]⟩,
    [(1, .object [("_id", .string "")])], ?_, ?_, ?_, ?_, ?_⟩ <;> decide +kernel

end NetConsole.Console
