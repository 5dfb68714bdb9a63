import NetConsole.Files.Basic
import Mathlib.Data.List.Basic
import Mathlib.Data.String.Basic

/-!
# What is where in a tree of files

What an operation on a tree of files leaves at each path, and when a directory stands: it and all
those above it are there.
-/

set_option autoImplicit false

namespace NetConsole.Files

theorem at?_nil (files : Files) : files.at? [] = some .directory := if_pos rfl

private theorem at?_of_ne_nil {files : Files} {path : Path} (below : path ≠ []) :
    files.at? path = (files.entries.find? (·.1 == path)).map (·.2) := if_neg below

theorem read?_of_missing {files : Files} {path : Path} (missing : files.exists? path = false) :
    files.read? path = none := by
  have absent : files.at? path = none := by
    simpa [exists?] using missing
  rw [read?, absent]

theorem exists?_of_read? {files : Files} {path : Path} {content : String}
    (held : files.read? path = some content) : files.exists? path = true := by
  unfold read? at held
  split at held
  case _ found => exact Option.isSome_of_eq_some found
  · cases held

/-! ## Changes at a path -/

private theorem find?_erase (entries : List (Path × Entry)) (path other : Path) :
    (entries.filter (·.1 != path)).find? (·.1 == other) =
      if other = path then none else entries.find? (·.1 == other) := by
  rw [List.find?_filter]
  by_cases same : other = path
  · subst same
    rw [if_pos rfl]
    refine List.find?_eq_none.mpr fun entry _ => ?_
    simp
  · rw [if_neg same]
    congr 1
    funext entry
    by_cases here : entry.1 = other
    · subst here
      simp [same]
    · simp [here]

theorem at?_erase (files : Files) {path : Path} (below : path ≠ []) (other : Path) :
    (files.erase path).at? other = if other = path then none else files.at? other := by
  by_cases root : other = []
  · subst root
    rw [at?_nil, at?_nil, if_neg below.symm]
  · rw [at?_of_ne_nil root, at?_of_ne_nil root, erase, find?_erase]
    split <;> rfl

theorem at?_put (files : Files) {path : Path} (below : path ≠ []) (entry : Entry) (other : Path) :
    (files.put path entry).at? other = if other = path then some entry else files.at? other := by
  by_cases root : other = []
  · subst root
    rw [at?_nil, at?_nil, if_neg below.symm]
  · rw [at?_of_ne_nil root, at?_of_ne_nil root, put, erase, List.find?_append, find?_erase]
    by_cases same : other = path
    · subst same
      simp
    · rw [if_neg same, if_neg same]
      have apart : (path == other) = false := beq_eq_false_iff_ne.mpr (Ne.symm same)
      simp [apart]

/-- What has to be so for a file to be written, and what is at its path then. -/
theorem write_eq {files : Files} {directory : Path} {name : String} (content : String)
    (standing : files.at? directory = some .directory)
    (free : files.at? (directory ++ [name]) ≠ some .directory) (allowed : Path.isName name = true) :
    files.write (directory ++ [name]) content =
      some (files.put (directory ++ [name]) (.text content)) := by
  rw [write, List.getLast?_concat]
  dsimp only
  rw [List.dropLast_concat, if_pos ⟨standing, free, allowed⟩]

theorem write_eq_none {files : Files} {directory : Path} {name : String} (content : String)
    (refused : Path.isName name = false) : files.write (directory ++ [name]) content = none := by
  rw [write, List.getLast?_concat]
  dsimp only
  rw [if_neg fun allowed => Bool.false_ne_true (refused.symm.trans allowed.2.2)]

/-- What was written to a file is what is read from it. -/
theorem read?_of_write {files after : Files} {path : Path} {content : String}
    (written : files.write path content = some after) : after.read? path = some content := by
  unfold write at written
  split at written
  · cases written
  case _ name last =>
    have below : path ≠ [] := by
      rintro rfl
      cases last
    split at written
    · cases written
      rw [read?, at?_put files below, if_pos rfl]
    · cases written

theorem at?_of_write {files after : Files} {path other : Path} {content : String}
    (written : files.write path content = some after) (apart : other ≠ path) :
    after.at? other = files.at? other := by
  unfold write at written
  split at written
  · cases written
  case _ name last =>
    have below : path ≠ [] := by
      rintro rfl
      cases last
    split at written
    · cases written
      rw [at?_put files below, if_neg apart]
    · cases written

theorem at?_of_remove {files after : Files} {path other : Path}
    (removed : files.remove path = some after) (below : path ≠ []) (apart : other ≠ path) :
    after.at? other = files.at? other := by
  unfold remove at removed
  split at removed
  · cases removed
  · cases removed
    rw [at?_erase files below, if_neg apart]

theorem remove_eq {files : Files} {path : Path} (free : files.at? path ≠ some .directory) :
    files.remove path = some (files.erase path) := by
  rw [remove]
  split
  case h_1 there => exact absurd there free
  case h_2 => rfl

/-! ## Names -/

theorem mem_insertName {name other : String} {sorted : List String} :
    other ∈ insertName name sorted ↔ other = name ∨ other ∈ sorted := by
  induction sorted with
  | nil => simp [insertName]
  | cons head rest ih =>
      rw [insertName]
      split
      · exact List.mem_cons
      · split
        · rw [List.mem_cons, ih, List.mem_cons]
          exact or_left_comm
        · next notLess notMore =>
            -- the name is the one that is there already
            have same : name = head := le_antisymm (not_lt.mp notMore) (not_lt.mp notLess)
            subst same
            rw [List.mem_cons, or_self_left]

theorem mem_sortNames {name : String} {names : List String} :
    name ∈ sortNames names ↔ name ∈ names := by
  unfold sortNames
  suffices reached : ∀ sorted : List String,
      name ∈ names.foldl (fun sorted name => insertName name sorted) sorted ↔
        name ∈ names ∨ name ∈ sorted by
    exact (reached []).trans (or_iff_left List.not_mem_nil)
  induction names with
  | nil => simp
  | cons head rest ih =>
      intro sorted
      rw [List.foldl_cons, ih, mem_insertName, List.mem_cons]
      exact or_left_comm.trans or_assoc.symm

theorem mem_names {files : Files} {directory : Path} {name : String} :
    name ∈ files.names directory ↔ (files.at? (directory ++ [name])).isSome = true := by
  have below : directory ++ [name] ≠ [] := List.concat_ne_nil name directory
  rw [names, mem_sortNames, at?_of_ne_nil below, Option.isSome_map, List.find?_isSome,
    List.mem_filterMap]
  constructor
  · intro given
    obtain ⟨entry, member, last⟩ := given
    obtain ⟨there, inside⟩ := List.mem_filter.mp member
    simp only [isIn, Bool.and_eq_true, bne_iff_ne, beq_iff_eq] at inside
    refine ⟨entry, there, beq_iff_eq.mpr ?_⟩
    rw [← inside.2]
    exact (List.dropLast_append_getLast? name last).symm
  · intro given
    obtain ⟨entry, there, same⟩ := given
    have path : entry.1 = directory ++ [name] := beq_iff_eq.mp same
    refine ⟨entry, List.mem_filter.mpr ⟨there, ?_⟩, ?_⟩
    · simp [isIn, path]
    · rw [path, List.getLast?_concat]

/-! ## Directories -/

/-- A directory is there, and so are all those above it. -/
def Standing (files : Files) (path : Path) : Prop :=
  ∀ place, place <+: path → files.at? place = some .directory

theorem Standing.here {files : Files} {path : Path} (standing : files.Standing path) :
    files.at? path = some .directory := standing path List.prefix_rfl

/-- A directory that is missing is made, if it can have its name. -/
theorem makeDirectories_cons {files after : Files} {place : Path} {name : String}
    {rest : List String} : files.makeDirectories place (name :: rest) = some after ↔
      (files.at? (place ++ [name]) = some .directory ∧
        files.makeDirectories (place ++ [name]) rest = some after) ∨
      (files.at? (place ++ [name]) = none ∧ Path.isName name = true ∧
        (files.put (place ++ [name]) .directory).makeDirectories (place ++ [name]) rest =
          some after) := by
  rw [makeDirectories]
  cases files.at? (place ++ [name]) with
  | none => simp
  | some entry => cases entry <;> simp

theorem Standing.makeDirectory {files : Files} {path : Path} (standing : files.Standing path) :
    files.makeDirectory path = some files := by
  suffices reached : ∀ (rest place : List String), place ++ rest = path →
      files.makeDirectories place rest = some files from reached path [] rfl
  intro rest
  induction rest with
  | nil => exact fun _ _ => rfl
  | cons name rest ih =>
      intro place whole
      rw [List.append_cons] at whole
      have there := standing (place ++ [name]) ⟨rest, whole⟩
      exact makeDirectories_cons.mpr (.inl ⟨there, ih (place ++ [name]) whole⟩)

theorem at?_put_of_eq_none {files : Files} {place other : Path} {entry new : Entry}
    (missing : files.at? place = none) (there : files.at? other = some entry) :
    (files.put place new).at? other = some entry := by
  have apart : other ≠ place := by
    intro same
    rw [same, missing] at there
    cases there
  have below : place ≠ [] := by
    intro top
    rw [top, at?_nil] at missing
    cases missing
  rw [at?_put files below, if_neg apart]
  exact there

theorem Standing.concat {files : Files} {place : Path} (standing : files.Standing place)
    {name : String} (there : files.at? (place ++ [name]) = some .directory) :
    files.Standing (place ++ [name]) := by
  intro other above
  rcases List.prefix_concat_iff.mp above with rfl | higher
  · exact there
  · exact standing other higher

/-- A directory that was made stands, and nothing that was there has changed. -/
theorem standing_of_makeDirectory {files after : Files} {path : Path}
    (made : files.makeDirectory path = some after) :
    after.Standing path ∧ ∀ place entry, files.at? place = some entry →
      after.at? place = some entry := by
  suffices reached : ∀ (rest place : List String) (files : Files), files.Standing place →
      files.makeDirectories place rest = some after →
        after.Standing (place ++ rest) ∧ ∀ other entry, files.at? other = some entry →
          after.at? other = some entry by
    refine reached path [] files (fun place above => ?_) made
    rw [List.prefix_nil.mp above]
    exact files.at?_nil
  intro rest
  induction rest with
  | nil =>
      intro place files standing made
      cases made
      rw [List.append_nil]
      exact ⟨standing, fun _ _ there => there⟩
  | cons name rest ih =>
      intro place files standing made
      rw [List.append_cons]
      rcases makeDirectories_cons.mp made with ⟨there, made⟩ | ⟨missing, -, made⟩
      · exact ih (place ++ [name]) files (standing.concat there) made
      · have kept (other : Path) (entry : Entry) (found : files.at? other = some entry) :
            (files.put (place ++ [name]) .directory).at? other = some entry :=
          at?_put_of_eq_none missing found
        have still : (files.put (place ++ [name]) .directory).Standing place :=
          fun other above => kept other .directory (standing other above)
        have here : (files.put (place ++ [name]) .directory).at? (place ++ [name]) =
            some .directory := by
          rw [at?_put files (List.concat_ne_nil name place), if_pos rfl]
        obtain ⟨reached, keeps⟩ := ih (place ++ [name]) _ (still.concat here) made
        exact ⟨reached, fun other entry found => keeps other entry (kept other entry found)⟩

/-- Making a directory makes no file, and no file is lost by it. -/
theorem text_of_makeDirectory {files after : Files} {path place : Path} {content : String}
    (made : files.makeDirectory path = some after) :
    after.at? place = some (.text content) ↔ files.at? place = some (.text content) := by
  suffices reached : ∀ (rest above : List String) (files : Files),
      files.makeDirectories above rest = some after →
        (after.at? place = some (.text content) ↔ files.at? place = some (.text content)) from
    reached path [] files made
  intro rest
  induction rest with
  | nil =>
      intro above files made
      cases made
      rfl
  | cons name rest ih =>
      intro above files made
      rcases makeDirectories_cons.mp made with ⟨-, made⟩ | ⟨missing, -, made⟩
      · exact ih (above ++ [name]) files made
      · rw [ih (above ++ [name]) _ made, at?_put files (List.concat_ne_nil name above)]
        by_cases here : place = above ++ [name]
        · rw [if_pos here, here, missing]
          simp
        · rw [if_neg here]

/-- Every file has a name that a file may have. -/
def WellNamed (files : Files) : Prop :=
  ∀ directory name content, files.at? (directory ++ [name]) = some (.text content) →
    Path.isName name = true

theorem wellNamed_of_entries {files : Files}
    (allowed : ∀ entry ∈ files.entries, entry.1.getLast?.all Path.isName = true) :
    files.WellNamed := by
  intro directory name content there
  rw [at?_of_ne_nil (List.concat_ne_nil name directory)] at there
  obtain ⟨entry, found, -⟩ := Option.map_eq_some_iff.mp there
  have path : entry.1 = directory ++ [name] := by simpa using List.find?_some found
  have named := allowed entry (List.mem_of_find?_eq_some found)
  rwa [path, List.getLast?_concat] at named

theorem not_concat_of_isPrefix {directory place : Path} (name : String) (above : place <+: directory) :
    place ≠ directory ++ [name] := by
  intro same
  subst same
  have longer := above.length_le
  rw [List.length_append, List.length_singleton] at longer
  exact Nat.not_succ_le_self _ longer

theorem Standing.put {files : Files} {directory : Path} (standing : files.Standing directory)
    (name : String) (entry : Entry) : (files.put (directory ++ [name]) entry).Standing directory := by
  intro place above
  rw [at?_put files (List.concat_ne_nil name directory), if_neg (not_concat_of_isPrefix name above)]
  exact standing place above

theorem Standing.erase {files : Files} {directory : Path} (standing : files.Standing directory)
    (name : String) : (files.erase (directory ++ [name])).Standing directory := by
  intro place above
  rw [at?_erase files (List.concat_ne_nil name directory), if_neg (not_concat_of_isPrefix name above)]
  exact standing place above

/-! ## Changes elsewhere -/

/-- Two trees have the same on the way to a directory and in it. -/
def Agree (directory : Path) (one two : Files) : Prop :=
  ∀ path, path <+: directory ∨ directory <+: path → one.at? path = two.at? path

theorem Agree.put {directory place : Path} {one two : Files} (agree : Agree directory one two)
    (below : place ≠ []) (entry : Entry) :
    Agree directory (one.put place entry) (two.put place entry) := by
  intro path near
  rw [at?_put one below, at?_put two below, agree path near]

theorem Agree.makeDirectory {directory : Path} {one two after : Files}
    (agree : Agree directory one two) (made : one.makeDirectory directory = some after) :
    ∃ other, two.makeDirectory directory = some other ∧ Agree directory after other := by
  suffices reached : ∀ (rest place : List String) (one two : Files), place ++ rest = directory →
      Agree directory one two → one.makeDirectories place rest = some after →
        ∃ other, two.makeDirectories place rest = some other ∧ Agree directory after other from
    reached directory [] one two rfl agree made
  intro rest
  induction rest with
  | nil =>
      intro place one two _ agree made
      cases made
      exact ⟨two, rfl, agree⟩
  | cons name rest ih =>
      intro place one two whole agree made
      rw [List.append_cons] at whole
      have same := agree (place ++ [name]) (.inl ⟨rest, whole⟩)
      rcases makeDirectories_cons.mp made with ⟨there, made⟩ | ⟨missing, allowed, made⟩
      · obtain ⟨other, alsoMade, alike⟩ := ih (place ++ [name]) one two whole agree made
        exact ⟨other, makeDirectories_cons.mpr (.inl ⟨same.symm.trans there, alsoMade⟩), alike⟩
      · have below : place ++ [name] ≠ [] := List.concat_ne_nil name place
        obtain ⟨other, alsoMade, alike⟩ :=
          ih (place ++ [name]) _ _ whole (agree.put below .directory) made
        exact ⟨other, makeDirectories_cons.mpr
          (.inr ⟨same.symm.trans missing, allowed, alsoMade⟩), alike⟩

end NetConsole.Files
