import NetConsole.Proofs.Files.Basic
import NetConsole.Proofs.Files.Path
import NetConsole.Proofs.Text.Ascii
import NetConsole.Store.Disk

/-!
# The names of collection files

Every valid name has a file of its own in the directory of a store, and each file that is listed as
one belongs to one name. A file system allows the file unless the name is too long.
-/

set_option autoImplicit false

namespace NetConsole.Store

/-- The name of the file of a collection. -/
def fileName (name : String) : String := name ++ fileEnding

/-- The place of the file of a collection. -/
def place (directory : Path) (name : String) : Path := directory ++ [fileName name]

/-- The longest name of a collection whose file a file system allows. -/
def maxNameLength : Nat := Path.maxNameBytes - fileEnding.length

theorem place_ne_nil (directory : Path) (name : String) : place directory name ≠ [] :=
  List.concat_ne_nil _ _

theorem toList_fileName (name : String) :
    (fileName name).toList = name.toList ++ ['.', 'j', 's', 'o', 'n'] := String.toList_append

theorem fileName_injective {one two : String} (same : fileName one = fileName two) : one = two := by
  have lists := congrArg String.toList same
  rw [toList_fileName, toList_fileName] at lists
  exact String.toList_inj.mp (List.append_cancel_right lists)

theorem place_injective {directory : Path} {one two : String}
    (same : place directory one = place directory two) : one = two :=
  fileName_injective (List.singleton_inj.mp (List.append_cancel_left same))

/-! ## Characters -/

/-- A character that takes one byte and may stand in the name of a file. -/
structure IsPlain (c : Char) : Prop where
  short : c.toNat < 128
  notZero : c ≠ Char.ofNat 0
  notSlash : c ≠ '/'

theorem isPlain_of_isNameChar {c : Char} (allowed : isNameChar c = true) : IsPlain c := by
  simp only [isNameChar, Bool.or_eq_true, beq_iff_eq] at allowed
  have range : c.toNat < 128 ∧ c.toNat ≠ 0 ∧ c.toNat ≠ 47 := by
    rcases allowed with (alphanumeric | rfl) | rfl
    · have spread := Text.toNat_of_isAlphanum alphanumeric
      omega
    · decide
    · decide
  refine ⟨range.1, ?_, ?_⟩
  · intro same
    subst same
    exact range.2.1 rfl
  · intro same
    subst same
    exact range.2.2 rfl

theorem isPlain_of_mem_fileName {name : String} (valid : isValidName name = true) {c : Char}
    (member : c ∈ (fileName name).toList) : IsPlain c := by
  rw [toList_fileName] at member
  rcases List.mem_append.mp member with inName | inEnding
  · simp only [isValidName, Bool.and_eq_true, List.all_eq_true] at valid
    exact isPlain_of_isNameChar (valid.2 c inName)
  · simp only [List.mem_cons, List.not_mem_nil, or_false] at inEnding
    rcases inEnding with rfl | rfl | rfl | rfl | rfl
    all_goals exact ⟨by decide, by decide, by decide⟩

/-! ## Paths -/

theorem isStep_fileName {name : String} (valid : isValidName name = true) :
    Path.IsStep (fileName name) := by
  -- no name that ends in five characters is a dot or two
  have long : 5 ≤ (fileName name).toList.length := by
    rw [toList_fileName, List.length_append]
    exact Nat.le_add_left _ _
  refine ⟨fun slash => (isPlain_of_mem_fileName valid slash).notSlash rfl, ⟨?_, ?_⟩, ?_⟩
  all_goals
    intro same
    rw [same] at long
    exact absurd long (by decide)

theorem ofText_filePath (root : String) {name : String} (valid : isValidName name = true) :
    Path.ofText (filePath root name) = place (Path.ofText root) name :=
  Path.ofText_joinText root (isStep_fileName valid)

/-- A file system allows the file of a collection unless the name is too long. -/
theorem isName_fileName {name : String} (valid : isValidName name = true) :
    Path.isName (fileName name) = decide (name.toList.length ≤ maxNameLength) := by
  have zeroless : (fileName name).toList.contains (Char.ofNat 0) = false := by
    rw [List.contains_eq_mem, decide_eq_false_iff_not]
    exact fun zero => (isPlain_of_mem_fileName valid zero).notZero rfl
  have bytes : (Text.bytes (fileName name)).length = name.toList.length + 5 := by
    have single : ∀ c ∈ (fileName name).toList, (String.utf8EncodeChar c).length = 1 := by
      intro c member
      rw [String.length_utf8EncodeChar, Char.utf8Size_eq_one_iff, UInt32.le_iff_toNat_le]
      exact Nat.le_of_lt_succ (isPlain_of_mem_fileName valid member).short
    rw [Text.bytes, Text.utf8, List.length_flatMap, List.map_congr_left single, List.map_const',
      List.sum_replicate_nat, toList_fileName, List.length_append]
    exact Nat.mul_one _
  have limit : fileEnding.length = 5 := rfl
  simp only [Path.isName, zeroless, bytes, maxNameLength, Path.maxNameBytes, limit, Bool.not_false,
    Bool.true_and]
  rw [decide_eq_decide]
  omega

/-! ## Listings -/

theorem collectionOfFile?_eq_some {file name : String} :
    collectionOfFile? file = some name ↔ file = fileName name ∧ isValidName name = true := by
  have front : ∀ name : String, (fileName name).toList.take
      ((fileName name).length - fileEnding.length) = name.toList := by
    intro name
    have count : (fileName name).length - fileEnding.length = name.toList.length := by
      have limit : fileEnding.length = 5 := rfl
      rw [← String.length_toList, toList_fileName, List.length_append, limit]
      exact Nat.add_sub_cancel _ 5
    rw [count, toList_fileName]
    exact List.take_left
  constructor
  · intro found
    unfold collectionOfFile? at found
    dsimp only at found
    split at found
    case isFalse => cases found
    case isTrue allowed =>
      obtain ⟨before, whole⟩ := Path.endsWith_iff.mp allowed.1
      have named : file = fileName (String.ofList before) := by
        rw [← String.toList_inj, toList_fileName, String.toList_ofList]
        exact whole.symm
      subst named
      rw [front, String.ofList_toList] at allowed found
      cases found
      exact ⟨rfl, allowed.2⟩
  · intro given
    obtain ⟨rfl, valid⟩ := given
    have ends : (fileName name).endsWith fileEnding = true :=
      Path.endsWith_iff.mpr ⟨name.toList, (toList_fileName name).symm⟩
    unfold collectionOfFile?
    dsimp only
    rw [front, String.ofList_toList, if_pos ⟨ends, valid⟩]

theorem mem_namesIn {files : Files} {root name : String} :
    name ∈ namesIn files root ↔ isValidName name = true ∧
      (files.at? (place (Path.ofText root) name)).isSome = true := by
  rw [namesIn, List.mem_filterMap]
  constructor
  · intro given
    obtain ⟨file, listed, found⟩ := given
    obtain ⟨rfl, valid⟩ := collectionOfFile?_eq_some.mp found
    exact ⟨valid, Files.mem_names.mp listed⟩
  · intro given
    obtain ⟨valid, there⟩ := given
    exact ⟨fileName name, Files.mem_names.mpr there, collectionOfFile?_eq_some.mpr ⟨rfl, valid⟩⟩

end NetConsole.Store
