import NetConsole.Proofs.Records.Verdicts
import Mathlib.Data.List.Forall2

/-!
# What an envelope holds

The records of an envelope are read one by one, in their order, from what the text has under `data`.
-/

set_option autoImplicit false

namespace NetConsole.Json

open Stepwise

theorem readItems_iff {shape : Shape} {room : Nat} {trees : List Tree} {items : List Json} :
    readItems shape room trees = .ok items ↔
      List.Forall₂ (fun tree item => readShape shape room tree = .ok item) trees items := by
  induction trees generalizing items with
  | nil =>
      rw [readItems, List.forall₂_nil_left_iff]
      exact ⟨fun same => (Except.ok.inj same).symm, fun same => by rw [same]⟩
  | cons tree trees ih =>
      rw [readItems, bind_eq_ok, List.forall₂_cons_left_iff]
      constructor
      · intro given
        obtain ⟨item, first, read⟩ := given
        obtain ⟨rest, others, read⟩ := bind_eq_ok.mp read
        cases read
        exact ⟨item, rest, first, ih.mp others, rfl⟩
      · intro given
        obtain ⟨item, rest, first, others, rfl⟩ := given
        exact ⟨item, first, bind_eq_ok.mpr ⟨rest, ih.mpr others, rfl⟩⟩

namespace Tree

/-- The items of an array. -/
def items : Tree → List Tree
  | .array items _ => items
  | _ => []

/-- What an envelope has under `data`, which is the first of its parts if it is an array. -/
def data? : Tree → Option Tree
  | .object members _ => statedIn "data" members
  | .array (first :: _) _ => some first
  | _ => none

/-- The trees of the records of an envelope. -/
def enclosed (tree : Tree) : List Tree := (tree.data?.map items).getD []

end Tree

theorem forall₂_items {item : Shape} {room : Nat} {tree : Tree} {value : Json}
    (read : readShape (.list item) (room + 1) tree = .ok value) :
    ∃ items, value = .array items ∧
      List.Forall₂ (fun tree value => readShape item room tree = .ok value) tree.items items := by
  rcases tree_of_readShape rfl (fun _ => rfl) read with ⟨trees, close, rfl⟩ | ⟨trees, close, rfl⟩
  · rw [readShape] at read
    simp only [Shape.base] at read
    obtain ⟨inner, ⟨⟩, read⟩ := bind_eq_ok.mp read
    obtain ⟨items, each, read⟩ := bind_eq_ok.mp read
    obtain ⟨_, _, read⟩ := bind_eq_ok.mp read
    cases read
    exact ⟨items, rfl, readItems_iff.mp each⟩
  · rw [readShape] at read
    cases read

/-- What an object says under a key is the last of what it states there. -/
theorem statedIn_eq (key : String) (members : List (Key × Tree)) :
    statedIn key members = (statements key members).getLast? := by
  induction members with
  | nil => rfl
  | cons member members ih =>
      rw [statedIn, ih]
      by_cases named : member.1.text.read.toOption = some key
      · simp [statements, named, List.getLast?_cons]
      · simp [statements, named]

theorem Tree.data?_eq (tree : Tree) : tree.data? = tree.dataParts.getLast? := by
  cases tree with
  | object members close => exact statedIn_eq "data" members
  | array parts close => cases parts <;> rfl
  | null | bool | number | string | broken => rfl

/-- Every record of an envelope is read from its own item of the data. -/
theorem forall₂_enclosed {item : Shape} {room : Nat} {tree : Tree} {value : Json}
    (read : readShape (Envelope.shape item) (room + 2) tree = .ok value) :
    List.Forall₂ (fun tree value => readShape item room tree = .ok value) tree.enclosed
      (itemsAt "data" value) := by
  obtain ⟨-, data, verdict, stands, -, rfl⟩ := (readAnswer_iff ⟨rfl, rfl, rfl, rfl⟩).mp read
  rw [Tree.enclosed, Tree.data?_eq]
  generalize tree.dataParts = parts at stands
  cases stands with
  | absent nothing =>
      cases nothing
      exact .nil
  | stated listed =>
      obtain ⟨items, rfl, each⟩ := forall₂_items listed
      exact each

end NetConsole.Json
