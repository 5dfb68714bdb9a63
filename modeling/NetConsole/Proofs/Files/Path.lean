import NetConsole.Files.Path
import Mathlib.Data.List.Basic

/-!
# The text of a path

A name without slashes that is joined to the text of a path is one more step along that path.
-/

set_option autoImplicit false

namespace NetConsole.Path

theorem endsWith_iff {s ending : String} :
    s.endsWith ending = true ↔ ending.toList <:+ s.toList := by
  change s.toSlice.endsWith ending = true ↔ _
  rw [String.Slice.endsWith_string_iff, String.copy_toSlice]

theorem split_ne_nil (cs : List Char) : split cs ≠ [] := by
  cases cs with
  | nil => exact List.cons_ne_nil _ _
  | cons c rest =>
      rw [split.eq_def]
      split
      · next nothing => cases nothing
      · exact List.cons_ne_nil _ _
      · split <;> exact List.cons_ne_nil _ _

theorem split_cons {c : Char} (other : c ≠ '/') {rest part : List Char} {more : List (List Char)}
    (parts : split rest = part :: more) : split (c :: rest) = (c :: part) :: more := by
  rw [split, parts]
  exact other

theorem split_slash (before after : List Char) :
    split (before ++ '/' :: after) = split before ++ split after := by
  induction before with
  | nil => rfl
  | cons c rest ih =>
      rw [List.cons_append]
      by_cases slash : c = '/'
      · subst slash
        rw [split, ih, split, List.cons_append]
      · cases parts : split rest with
        | nil => exact absurd parts (split_ne_nil rest)
        | cons part more =>
            rw [parts, List.cons_append] at ih
            rw [split_cons slash ih, split_cons slash parts, List.cons_append]

theorem split_of_no_slash {cs : List Char} (plain : '/' ∉ cs) : split cs = [cs] := by
  induction cs with
  | nil => rfl
  | cons c rest ih =>
      obtain ⟨first, others⟩ := List.ne_and_not_mem_of_not_mem_cons plain
      exact split_cons (Ne.symm first) (ih others)

/-- A name that is one step along a path. -/
structure IsStep (name : String) : Prop where
  plain : '/' ∉ name.toList
  stays : name ≠ "" ∧ name ≠ "."
  back : name ≠ ".."

theorem follow_step {name : String} (step : IsStep name) (path : Path) :
    follow path name = path ++ [name] := by
  rw [follow, if_neg (not_or.mpr step.stays), if_neg step.back]

/-- The place that the text of a path with one more name leads to. -/
theorem ofText_joinText (base : String) {name : String} (step : IsStep name) :
    ofText (joinText base name) = ofText base ++ [name] := by
  have relative : name.startsWith "/" = false := by
    rw [String.startsWith_string_eq_false_iff]
    intro leads
    exact step.plain (leads.subset List.mem_cons_self)
  have alone : split name.toList = [name.toList] := split_of_no_slash step.plain
  rw [joinText, relative, if_neg Bool.false_ne_true]
  -- a slash is put between the two unless there is one already
  by_cases ended : base = "" ∨ base.endsWith "/" = true
  · rw [if_pos ended]
    rcases ended with rfl | slash
    · rw [String.empty_append, ofText, alone, List.map_singleton, String.ofList_toList]
      exact follow_step step []
    · rw [endsWith_iff] at slash
      obtain ⟨front, whole⟩ := slash
      have joined : (base ++ name).toList = front ++ '/' :: name.toList := by
        rw [String.toList_append, ← whole, List.append_assoc]
        rfl
      have last : split base.toList = split front ++ [[]] := by
        rw [← whole]
        exact split_slash front []
      rw [ofText, ofText, joined, split_slash, alone, last]
      simp only [List.map_append, List.map_cons, List.map_nil, List.foldl_append, List.foldl_cons,
        List.foldl_nil, String.ofList_toList]
      rw [follow_step step]
      rfl
  · rw [if_neg ended]
    have joined : (base ++ "/" ++ name).toList = base.toList ++ '/' :: name.toList := by
      rw [String.toList_append, String.toList_append, List.append_assoc]
      rfl
    rw [ofText, ofText, joined, split_slash, alone]
    simp only [List.map_append, List.map_cons, List.map_nil, List.foldl_append, List.foldl_cons,
      List.foldl_nil, String.ofList_toList]
    exact follow_step step _

/-! ## The last name -/

/-- An ending without slashes is that of the last part. -/
theorem split_of_ending {ending cs : List Char} (plain : '/' ∉ ending) (ends : ending <:+ cs) :
    ∃ parts last, split cs = parts ++ [last] ∧ ending <:+ last := by
  induction cs with
  | nil => exact ⟨[], [], rfl, ends⟩
  | cons c rest ih =>
      rcases List.suffix_cons_iff.mp ends with rfl | later
      · exact ⟨[], c :: rest, split_of_no_slash plain, List.suffix_rfl⟩
      · obtain ⟨parts, last, shape, inside⟩ := ih later
        by_cases slash : c = '/'
        · subst slash
          exact ⟨[] :: parts, last, congrArg (List.cons []) shape, inside⟩
        · cases parts with
          | nil =>
              exact ⟨[], c :: last, split_cons slash shape,
                List.suffix_cons_iff.mpr (.inr inside)⟩
          | cons part more => exact ⟨(c :: part) :: more, last, split_cons slash shape, inside⟩

/-- The last name on the way to a text with an ending that is no step has that ending. -/
theorem getLast?_ofText {text ending : String} (plain : '/' ∉ ending.toList)
    (long : 2 < ending.toList.length) (ends : ending.toList <:+ text.toList) :
    ∃ name, (ofText text).getLast? = some name ∧ ending.toList <:+ name.toList := by
  obtain ⟨parts, last, shape, inside⟩ := split_of_ending plain ends
  have longer := Nat.lt_of_lt_of_le long inside.length_le
  have stays : ¬(String.ofList last = "" ∨ String.ofList last = ".") := by
    rintro (same | same) <;>
      · rw [← String.toList_ofList (l := last), same] at longer
        exact absurd longer (by decide)
  have back : String.ofList last ≠ ".." := by
    intro same
    rw [← String.toList_ofList (l := last), same] at longer
    exact absurd longer (by decide)
  refine ⟨String.ofList last, ?_, by rwa [String.toList_ofList]⟩
  rw [ofText, shape, List.map_append, List.map_singleton, List.foldl_concat, follow, if_neg stays,
    if_neg back, List.getLast?_concat]

end NetConsole.Path
