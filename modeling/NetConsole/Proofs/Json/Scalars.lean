import NetConsole.Proofs.Json.Shapes

/-!
# Reading scalars

A scalar is read by its shape as the free value that it is, wherever it stands, and every tree that
spells it is read as it.
-/

set_option autoImplicit false

namespace NetConsole.Json

open Stepwise

/-! ## Scalar shapes -/

/-- The shape of an integer in a range of words. -/
inductive Shape.IsInteger : Shape → Prop where
  | mk {low high : Int} (name : String) : IsWord low → IsWord high →
      IsInteger (.integer low high name)

@[simp] theorem Shape.isInteger_signed64 : IsInteger .signed64 :=
  .mk "i64" (by decide) (by decide)

@[simp] theorem Shape.isInteger_signed32 : IsInteger .signed32 :=
  .mk "i32" (by decide) (by decide)

@[simp] theorem Shape.isInteger_word64 : IsInteger .word64 := .mk "u64" (by decide) (by decide)

@[simp] theorem Shape.isInteger_word32 : IsInteger .word32 := .mk "u32" (by decide) (by decide)

/-- The shape of a value with nothing inside it. -/
inductive Shape.Scalar : Shape → Prop where
  | text : Scalar .text
  | flag : Scalar .flag
  | integer {low high : Int} (name : String) :
      IsWord low → IsWord high → Scalar (.integer low high name)
  | optional {shape : Shape} : Scalar shape → Scalar (.optional shape)

theorem Shape.IsInteger.scalar {shape : Shape} (integer : shape.IsInteger) : shape.Scalar := by
  cases integer with
  | mk name low high => exact .integer name low high

@[simp] theorem Shape.Scalar.signed64 : Scalar .signed64 := Shape.isInteger_signed64.scalar

@[simp] theorem Shape.Scalar.signed32 : Scalar .signed32 := Shape.isInteger_signed32.scalar

@[simp] theorem Shape.Scalar.word64 : Scalar .word64 := Shape.isInteger_word64.scalar

/-! ## Readers -/

/-- How a value with nothing inside it is read by its shape. -/
inductive ReadsScalar : Shape → Tree → Json → Prop where
  | text {scan : Scan String} {s : String} : scan.read = .ok s →
      ReadsScalar .text (.string scan) (.string s)
  | flag (b : Bool) : ReadsScalar .flag (.bool b) (.bool b)
  | integer {scan : Scan Number} {i low high : Int} (name : String) :
      scan.read = .ok (.integer i) → low ≤ i → i ≤ high →
      ReadsScalar (.integer low high name) (.number scan) (.number (.integer i))
  | null (shape : Shape) : ReadsScalar (.optional shape) .null .null
  | optional {shape : Shape} {tree : Tree} {value : Json} :
      tree ≠ .null → ReadsScalar shape tree value → ReadsScalar (.optional shape) tree value

theorem readShape_optional {shape : Shape} {room : Nat} {tree : Tree} (given : tree ≠ .null) :
    readShape (.optional shape) room tree = readShape shape room tree := by
  cases tree with
  | null => exact absurd rfl given
  | array items close | object members close =>
      rw [readShape, readShape]
      rfl
  | bool b | number scan | string scan | broken reason =>
      rw [readShape, readShape]
      · rfl
      all_goals simp

theorem readShape_string (shape : Shape) (room : Nat) (scan : Scan String) :
    readShape shape room (.string scan) = readScalar shape.base.2 (.string scan) := by
  rw [readShape]
  all_goals simp

theorem readShape_number (shape : Shape) (room : Nat) (scan : Scan Number) :
    readShape shape room (.number scan) = readScalar shape.base.2 (.number scan) := by
  rw [readShape]
  all_goals simp

theorem ReadsScalar.readShape {shape : Shape} {tree : Tree} {value : Json}
    (reads : ReadsScalar shape tree value) (room : Nat) :
    readShape shape room tree = .ok value := by
  induction reads with
  | text scanned =>
      rw [readShape_string, Shape.base, readScalar, scanned]
      · rfl
      · simp
  | flag b => rfl
  | integer name scanned low high =>
      rw [readShape_number, Shape.base, readScalar, scanned]
      · exact if_pos ⟨low, high⟩
      · simp
  | null shape => rfl
  | optional given _ ih => rw [readShape_optional given, ih]

theorem Shape.Scalar.reads {shape : Shape} (scalar : shape.Scalar) {room : Nat} {tree : Tree}
    {value : Json} (read : readShape shape room tree = .ok value) :
    ReadsScalar shape tree value := by
  induction scalar with
  | text =>
      cases tree with
      | string scan =>
          obtain ⟨s, scanned, rfl⟩ := map_eq_ok read
          exact .text scanned
      | null | bool | number | broken => exact absurd read (Tree.mismatch_ne_ok _ _ _)
      | array | object => cases read
  | flag =>
      cases tree with
      | bool b =>
          cases read
          exact .flag b
      | null | string | number | broken => exact absurd read (Tree.mismatch_ne_ok _ _ _)
      | array | object => cases read
  | @integer low high name =>
      cases tree with
      | number scan =>
          obtain ⟨number, scanned, checked⟩ := bind_eq_ok.mp read
          cases number with
          | fraction x => cases checked
          | integer i =>
              rw [checkInteger] at checked
              split at checked
              case isTrue within =>
                cases checked
                exact .integer name scanned within.1 within.2
              case isFalse => cases checked
      | null | bool | string | broken => exact absurd read (Tree.mismatch_ne_ok _ _ _)
      | array | object => cases read
  | @optional shape _ ih =>
      by_cases absent : tree = .null
      · subst absent
        cases read
        exact .null shape
      · rw [readShape_optional absent] at read
        exact .optional absent (ih read)

/-- A scalar is the value that any reader takes it for. -/
theorem ReadsScalar.value {shape : Shape} {tree : Tree} {value : Json}
    (reads : ReadsScalar shape tree value) (room : Nat) : tree.value room = .ok value := by
  induction reads with
  | text scanned | integer _ scanned =>
      rw [Tree.value, scanned]
      rfl
  | flag | null => rfl
  | optional _ _ ih => exact ih

theorem ReadsScalar.ne_null {shape : Shape} {tree : Tree} {value : Json}
    (reads : ReadsScalar shape tree value) (given : tree ≠ .null) : value ≠ .null := by
  induction reads with
  | text | flag | integer => exact Json.noConfusion
  | null => exact absurd rfl given
  | optional _ _ ih => exact ih given

theorem ReadsScalar.of_spells {shape : Shape} {tree : Tree} {value : Json}
    (reads : ReadsScalar shape tree value) {other : Tree} (spells : other.Spells value) :
    ReadsScalar shape other value := by
  induction reads with
  | text scanned =>
      cases spells
      exact .text rfl
  | flag b =>
      cases spells
      exact .flag b
  | integer name scanned low high =>
      cases spells
      exact .integer name rfl low high
  | null shape =>
      cases spells
      exact .null shape
  | optional given reads ih =>
      refine .optional ?_ (ih spells)
      rintro rfl
      cases spells
      exact reads.ne_null given rfl

theorem ReadsScalar.depth {shape : Shape} {tree : Tree} {value : Json}
    (reads : ReadsScalar shape tree value) : value.depth = 0 := by
  induction reads with
  | text | flag | integer | null => rfl
  | optional _ _ ih => exact ih

end NetConsole.Json
