import NetConsole.Proofs.Files.Basic
import NetConsole.Proofs.Files.Path

/-!
# Texts that are hidden

A tree of files with the texts at some paths hidden. Whatever is done to a tree without reading or
writing those texts can be done to it as well when they are hidden, and comes to the same.
-/

set_option autoImplicit false

namespace NetConsole

/-- What is at a path, without its text if the path is one of those hidden. -/
def Entry.veiled (secret : Path → Bool) (path : Path) : Entry → Entry
  | .directory => .directory
  | .text content => .text (if secret path then "" else content)

namespace Files

/-- A tree with the texts at some paths hidden. -/
def veil (secret : Path → Bool) (files : Files) : Files :=
  ⟨files.entries.map fun entry => (entry.1, entry.2.veiled secret entry.1)⟩

variable {secret : Path → Bool}

theorem veiled_eq_directory {path : Path} {entry : Entry} :
    entry.veiled secret path = .directory ↔ entry = .directory := by
  cases entry <;> simp [Entry.veiled]

theorem veiled_of_shown {path : Path} (shown : secret path = false) (entry : Entry) :
    entry.veiled secret path = entry := by
  cases entry with
  | directory => rfl
  | text content => rw [Entry.veiled, shown]; rfl

/-! ## What is there -/

theorem at?_veil (secret : Path → Bool) (files : Files) (path : Path) :
    (files.veil secret).at? path = (files.at? path).map (Entry.veiled secret path) := by
  unfold at? veil
  split
  · rfl
  · rw [List.find?_map, Option.map_map, Option.map_map]
    change ((files.entries.find? (·.1 == path)).map _) = _
    cases found : files.entries.find? (·.1 == path) with
    | none => rfl
    | some entry =>
        have here : entry.1 = path := by simpa using List.find?_some found
        simp [here]

theorem at?_veil_eq_directory {files : Files} {path : Path} :
    (files.veil secret).at? path = some .directory ↔ files.at? path = some .directory := by
  rw [at?_veil, Option.map_eq_some_iff]
  constructor
  · intro given
    obtain ⟨entry, there, same⟩ := given
    rwa [veiled_eq_directory.mp same] at there
  · exact fun there => ⟨.directory, there, rfl⟩

theorem at?_veil_of_shown (files : Files) {path : Path} (shown : secret path = false) :
    (files.veil secret).at? path = files.at? path := by
  rw [at?_veil]
  cases files.at? path with
  | none => rfl
  | some entry => exact congrArg some (veiled_of_shown shown entry)

theorem read?_veil (files : Files) {path : Path} (shown : secret path = false) :
    (files.veil secret).read? path = files.read? path := by
  rw [read?, read?, at?_veil_of_shown files shown]

theorem names_veil (secret : Path → Bool) (files : Files) (directory : Path) :
    (files.veil secret).names directory = files.names directory := by
  unfold names veil
  rw [List.filter_map, List.filterMap_map]
  rfl

/-! ## Changes -/

theorem erase_veil (secret : Path → Bool) (files : Files) (path : Path) :
    (files.veil secret).erase path = (files.erase path).veil secret := by
  unfold erase veil
  rw [List.filter_map]
  rfl

theorem put_veil (files : Files) {path : Path} {entry : Entry}
    (same : entry.veiled secret path = entry) :
    (files.veil secret).put path entry = (files.put path entry).veil secret := by
  rw [put, erase_veil, put]
  unfold veil
  rw [List.map_append, List.map_singleton, same]

theorem makeDirectories_veil (secret : Path → Bool) (names : List String) (files : Files)
    (place : Path) : (files.veil secret).makeDirectories place names =
      (files.makeDirectories place names).map (veil secret) := by
  induction names generalizing files place with
  | nil => rfl
  | cons name rest ih =>
      rw [makeDirectories, makeDirectories, at?_veil]
      cases files.at? (place ++ [name]) with
      | none =>
          dsimp only [Option.map_none]
          split
          · rw [put_veil files rfl, ih]
          · rfl
      | some entry =>
          cases entry with
          | directory => exact ih files (place ++ [name])
          | text content => rfl

theorem makeDirectory_veil (secret : Path → Bool) (files : Files) (path : Path) :
    (files.veil secret).makeDirectory path = (files.makeDirectory path).map (veil secret) :=
  makeDirectories_veil secret path files []

theorem write_veil (files : Files) {path : Path} (shown : secret path = false)
    (content : String) : (files.veil secret).write path content =
      (files.write path content).map (veil secret) := by
  unfold write
  cases path.getLast? with
  | none => rfl
  | some name =>
      simp only [at?_veil_eq_directory, ne_eq]
      split
      · rw [put_veil files (veiled_of_shown shown _)]
        rfl
      · rfl

/-- An operation that can be done with texts hidden comes to the same on trees that differ in those
texts. -/
theorem exists_of_veil {α : Type} {op : Files → Files × α}
    (blind : ∀ files : Files, op (files.veil secret) = ((op files).1.veil secret, (op files).2))
    {one two : Files} (same : one.veil secret = two.veil secret) :
    ∃ result afterOne afterTwo, op one = (afterOne, result) ∧ op two = (afterTwo, result) ∧
      afterOne.veil secret = afterTwo.veil secret := by
  have ends : ((op one).1.veil secret, (op one).2) = ((op two).1.veil secret, (op two).2) := by
    rw [← blind, ← blind, same]
  obtain ⟨files, result⟩ := Prod.mk.inj ends
  exact ⟨_, _, _, rfl, Prod.ext rfl result.symm, files⟩

end Files

end NetConsole
