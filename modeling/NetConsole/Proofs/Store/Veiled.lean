import NetConsole.Config.Loading
import NetConsole.Proofs.Files.Veiled
import NetConsole.Store.Disk

/-!
# Stores and texts that are hidden

A store reads and writes nothing but the files of its collections, whose names have an ending of
their own. So it does not matter to it if texts in other files are hidden, such as the one of the
configuration.
-/

set_option autoImplicit false

namespace NetConsole.Store

/-- The files of collections are not among those that are hidden. -/
def Shown (secret : Path → Bool) : Prop :=
  ∀ root name, secret (Path.ofText (filePath root name)) = false

theorem shown_none : Shown fun _ => false := fun _ _ => rfl

/-! ## The file of the configuration -/

theorem endsWith_joinText (base part : String) :
    part.toList <:+ (Path.joinText base part).toList := by
  unfold Path.joinText
  split
  · exact List.suffix_rfl
  · split
    · rw [String.toList_append]
      exact List.suffix_append _ _
    · rw [String.toList_append]
      exact List.suffix_append _ _

theorem getLast?_configPath (home : String) :
    (Path.ofText (Config.filePath home)).getLast? = some "config.toml" := by
  have step : Path.IsStep "config.toml" := ⟨by decide, by decide, by decide⟩
  have joined := Path.ofText_joinText (Path.joinTexts home [".config", "unified"]) step
  rw [Config.filePath]
  change (Path.ofText (Path.joinText (Path.joinTexts home [".config", "unified"])
    "config.toml")).getLast? = _
  rw [joined, List.getLast?_concat]

/-- The file of the configuration is not the one of a collection, wherever the store is. -/
theorem shown_config (home : String) :
    Shown fun path => decide (path = Path.ofText (Config.filePath home)) := by
  intro root name
  refine decide_eq_false fun same => ?_
  have ends : fileEnding.toList <:+ (filePath root name).toList := by
    refine List.IsSuffix.trans ?_ (endsWith_joinText root (name ++ fileEnding))
    rw [String.toList_append]
    exact List.suffix_append _ _
  obtain ⟨last, isLast, inside⟩ := Path.getLast?_ofText (by decide) (by decide) ends
  rw [same, getLast?_configPath] at isLast
  cases isLast
  exact absurd inside (by decide)

/-! ## Opening and writing -/

variable {secret : Path → Bool}

theorem load_veil (shown : Shown secret) (files : Files) (root name : String) :
    load (files.veil secret) root name = load files root name := by
  rw [load, load, Files.read?_veil files (shown root name)]

theorem loadAll_veil (shown : Shown secret) (files : Files) (root : String) (names : List String)
    (store : Store) :
    loadAll (files.veil secret) root store names = loadAll files root store names := by
  induction names generalizing store with
  | nil => rfl
  | cons name rest ih =>
      rw [loadAll, loadAll, load_veil shown]
      simp only [ih]

theorem open?_veil (shown : Shown secret) (files : Files) (root : String) :
    open? (files.veil secret) root = ((open? files root).1.veil secret, (open? files root).2) := by
  unfold open?
  split
  case isTrue => rfl
  case isFalse =>
    rw [Files.makeDirectory_veil]
    cases files.makeDirectory (Path.ofText root) with
    | none => rfl
    | some made =>
        dsimp only [Option.map_some]
        rw [loadAll_veil shown, namesIn, namesIn, Files.names_veil]

theorem writeAll_veil (shown : Shown secret) (root : String) (files : Files)
    (collections : List (String × Collection)) :
    writeAll root (files.veil secret) collections =
      ((writeAll root files collections).1.veil secret, (writeAll root files collections).2) := by
  induction collections generalizing files with
  | nil => rfl
  | cons entry rest ih =>
      obtain ⟨name, collection⟩ := entry
      rw [writeAll, writeAll, Files.write_veil files (shown root name)]
      cases files.write (Path.ofText (filePath root name)) collection.toText with
      | none => rfl
      | some written => exact ih written

theorem flush_veil (shown : Shown secret) (store : Store) (files : Files) :
    store.flush (files.veil secret) =
      ((store.flush files).1.veil secret, (store.flush files).2) := by
  unfold flush
  cases store.root with
  | none => rfl
  | some root => exact writeAll_veil shown root files store.collections

end NetConsole.Store
