import NetConsole.Proofs.Store.Collection
import NetConsole.Store.Basic

/-!
# Counting in words

A loop that adds documents breaks off once there is no word left to count with. Numbers are only
ever counted up, so the loop comes to what it would come to with numbers of any size, unless it
counts past the last word by then.
-/

set_option autoImplicit false

namespace NetConsole.Store

/-! ## Loops -/

section

variable {σ α : Type}

/-- A count that may be reached: nothing was counted, or the count is a word. -/
def Reaches (before after : Nat) : Prop := after = before ∨ after < Decimal.words64

instance (before after : Nat) : Decidable (Reaches before after) :=
  inferInstanceAs (Decidable (_ ∨ _))

/-- What is counted on the way is reached from the beginning, and the end from there. -/
theorem Reaches.split {first between last : Nat} (reached : Reaches first last)
    (up : first ≤ between) (on : between ≤ last) :
    Reaches first between ∧ Reaches between last := by
  unfold Reaches at *
  omega

/-- A step that comes to what another one does, or breaks off where that counts too far. -/
structure Counting (step : σ → α → Except Error σ) (exact : σ → α → σ) (count : σ → Nat) :
    Prop where
  le : ∀ state item, count state ≤ count (exact state item)
  step_eq : ∀ state item, step state item =
    if Reaches (count state) (count (exact state item)) then .ok (exact state item)
    else .error .overflow

variable {step : σ → α → Except Error σ} {exact : σ → α → σ} {count : σ → Nat}

theorem Counting.le_foldl (counting : Counting step exact count) (items : List α) (state : σ) :
    count state ≤ count (items.foldl exact state) := by
  induction items generalizing state with
  | nil => exact Nat.le_refl _
  | cons item rest ih => exact (counting.le state item).trans (ih _)

/-- Only the count at the end matters, however many steps it took. -/
theorem Counting.foldlM_eq (counting : Counting step exact count) (items : List α) (state : σ) :
    items.foldlM step state =
      if Reaches (count state) (count (items.foldl exact state)) then
        .ok (items.foldl exact state)
      else .error .overflow := by
  induction items generalizing state with
  | nil => exact (if_pos (.inl rfl)).symm
  | cons item rest ih =>
      have first := counting.le state item
      have others := counting.le_foldl rest (exact state item)
      rw [List.foldlM_cons, List.foldl_cons, counting.step_eq]
      by_cases reached : Reaches (count state) (count (exact state item))
      · have same :
            Reaches (count (exact state item)) (count (rest.foldl exact (exact state item))) ↔
              Reaches (count state) (count (rest.foldl exact (exact state item))) := by
          unfold Reaches at *
          omega
        rw [if_pos reached]
        exact (ih _).trans (if_congr same rfl rfl)
      · have beyond : ¬ Reaches (count state) (count (rest.foldl exact (exact state item))) := by
          unfold Reaches at *
          omega
        rw [if_neg reached, if_neg beyond]
        rfl

theorem Counting.foldlM_eq_ok (counting : Counting step exact count) {items : List α}
    {state after : σ} (ended : items.foldlM step state = .ok after) :
    after = items.foldl exact state ∧ Reaches (count state) (count after) := by
  rw [counting.foldlM_eq] at ended
  split at ended
  case isTrue reached =>
    cases ended
    exact ⟨rfl, reached⟩
  case isFalse => cases ended

end

theorem Collection.reaches_added {collection : Collection} {document : Json} :
    Reaches collection.nextId (collection.added document).nextId ↔
      collection.nextId + 1 < Decimal.words64 := by
  rw [added_nextId, Reaches]
  exact or_iff_right (Nat.succ_ne_self _)

/-! ## Upserts -/

/-- What becomes of a collection that is offered a document with its key, whatever its numbers. -/
def considered (field : String) (state : Report × Collection) (record : String × Json) :
    Report × Collection :=
  if (state.2.find field record.1).isEmpty then
    ({ state.1 with inserted := state.1.inserted + 1 }, state.2.added record.2)
  else ({ state.1 with existing := state.1.existing + 1 }, state.2)

/-- A collection after an upsert of records, whatever its numbers, with the report. -/
def Collection.upserted (field : String) (collection : Collection)
    (records : List (String × Json)) : Report × Collection :=
  records.foldl (considered field) (⟨0, 0⟩, collection)

theorem counting_upsertOne (field : String) :
    Counting (upsertOne field) (considered field) (·.2.nextId) := by
  constructor
  case le =>
    intro state record
    unfold considered
    split
    case isTrue => exact Nat.le_succ _
    case isFalse => exact Nat.le_refl _
  case step_eq =>
    intro state record
    obtain ⟨report, collection⟩ := state
    unfold considered upsertOne
    dsimp only
    split
    case isTrue =>
      rw [Collection.insert_eq]
      simp only [Collection.reaches_added]
      split <;> rfl
    case isFalse => exact (if_pos (.inl rfl)).symm

end NetConsole.Store
