import NetConsole.Url.Reader
import Mathlib.Data.List.TakeDrop
import Mathlib.Data.List.TakeWhile

/-!
# Relative texts

A text that is neither rooted nor has a scheme, once it is cleaned, is read against a URL and keeps
its scheme and its authority. Where its segments never climb above the directory that they are
followed from, the path stays below that directory as well.
-/

set_option autoImplicit false

namespace NetConsole.Url

/-! ## Cleaning -/

/-- Whether a character is dropped at the ends of a text. -/
def isEdge (c : Char) : Bool := decide (c.toNat ≤ 0x20)

/-- Whether a character is kept inside a text. -/
def isKept (c : Char) : Bool := decide (c ≠ '\t' ∧ c ≠ '\n' ∧ c ≠ '\r')

/-- A text without what is dropped at its end and inside it. -/
def cleanEnd (cs : List Char) : List Char := (cs.reverse.dropWhile isEdge).reverse.filter isKept

theorem clean_eq (cs : List Char) : clean cs = cleanEnd (cs.dropWhile isEdge) := rfl

theorem isKept_of_visible {c : Char} (visible : isEdge c = false) : isKept c = true := by
  rw [isKept, decide_eq_true_iff]
  refine ⟨?_, ?_, ?_⟩
  all_goals
    rintro rfl
    revert visible
    decide

theorem filter_isKept {cs : List Char} (visible : ∀ c ∈ cs, isEdge c = false) :
    cs.filter isKept = cs :=
  List.filter_eq_self.mpr fun c member => isKept_of_visible (visible c member)

theorem dropWhile_isEdge {cs : List Char} (visible : ∀ c ∈ cs, isEdge c = false) :
    cs.dropWhile isEdge = cs := by
  cases cs with
  | nil => rfl
  | cons c rest =>
      have here := visible c List.mem_cons_self
      exact List.dropWhile_cons_of_neg (by rw [here]; decide)

theorem clean_append {front : List Char} (visible : ∀ c ∈ front, isEdge c = false)
    (some : front ≠ []) (rest : List Char) : clean (front ++ rest) = front ++ cleanEnd rest := by
  have first : (front ++ rest).dropWhile isEdge = front ++ rest := by
    rw [List.dropWhile_append, dropWhile_isEdge visible, if_neg]
    rwa [List.isEmpty_iff]
  have backwards : ∀ c ∈ front.reverse, isEdge c = false := fun c member =>
    visible c (List.mem_reverse.mp member)
  rw [clean_eq, first, cleanEnd, cleanEnd, List.reverse_append, List.dropWhile_append]
  split
  case isTrue nothing =>
    rw [List.isEmpty_iff.mp nothing, dropWhile_isEdge backwards, List.reverse_reverse,
      filter_isKept visible]
    exact (List.append_nil front).symm
  case isFalse =>
    rw [List.reverse_append, List.reverse_reverse, List.filter_append, filter_isKept visible]

theorem cleanEnd_concat {c : Char} (visible : isEdge c = false) (cs : List Char) :
    cleanEnd (cs ++ [c]) = cs.filter isKept ++ [c] := by
  have last : (cs ++ [c]).reverse.dropWhile isEdge = (cs ++ [c]).reverse := by
    rw [List.reverse_concat]
    exact List.dropWhile_cons_of_neg (by rw [visible]; decide)
  rw [cleanEnd, last, List.reverse_reverse, List.filter_append,
    List.filter_cons_of_pos (isKept_of_visible visible), List.filter_nil]

/-! ## Relative texts -/

/-- A text that has no scheme and does not begin with a slash. -/
structure IsRelative (text : String) : Prop where
  noScheme : splitScheme (clean text.toList) = none
  notRooted : ∀ c ∈ (clean text.toList).head?, isSlash true c = false

def isWordChar (c : Char) : Bool := isSchemeChar c && !isEdge c && !isSlash true c && c ≠ '?' && c ≠ '#'

/-- A fixed word of a path, which names a directory. -/
structure IsWord (word : List Char) : Prop where
  nonempty : word ≠ []
  chars : ∀ c ∈ word, isWordChar c = true
  notDot : isDot (encode inPathSet word) = false
  notDoubleDot : isDoubleDot (encode inPathSet word) = false

instance (word : List Char) : Decidable (IsWord word) :=
  decidable_of_iff (word ≠ [] ∧ word.all isWordChar = true ∧
      isDot (encode inPathSet word) = false ∧ isDoubleDot (encode inPathSet word) = false)
    ⟨fun all => ⟨all.1, List.all_eq_true.mp all.2.1, all.2.2.1, all.2.2.2⟩,
      fun word => ⟨word.1, List.all_eq_true.mpr word.2, word.3, word.4⟩⟩

namespace IsWord

variable {word : List Char}

theorem char (isWord : IsWord word) {c : Char} (member : c ∈ word) :
    isSchemeChar c = true ∧ isEdge c = false ∧ isSlash true c = false ∧ c ≠ '?' ∧ c ≠ '#' := by
  have whole := isWord.chars c member
  simpa [isWordChar, and_assoc] using whole

theorem visible (isWord : IsWord word) : ∀ c ∈ word, isEdge c = false :=
  fun _ member => (isWord.char member).2.1

theorem splitScheme_slash (isWord : IsWord word) (rest : List Char) :
    splitScheme (word ++ '/' :: rest) = none := by
  have after : (word ++ '/' :: rest).dropWhile isSchemeChar = '/' :: rest := by
    rw [List.dropWhile_append_of_pos fun c member => (isWord.char member).1]
    exact List.dropWhile_cons_of_neg (by decide)
  cases word with
  | nil => exact absurd rfl isWord.nonempty
  | cons c more =>
      rw [List.cons_append] at after ⊢
      unfold splitScheme
      dsimp only
      rw [after]
      split <;> rfl

theorem clean_slash (isWord : IsWord word) (rest : List Char) :
    clean (word ++ '/' :: rest) = word ++ '/' :: cleanEnd rest := by
  have visible : ∀ c ∈ word ++ ['/'], isEdge c = false := by
    intro c member
    rcases List.mem_append.mp member with inside | last
    · exact isWord.visible c inside
    · rw [List.mem_singleton.mp last]
      decide
  rw [List.append_cons, clean_append visible (List.concat_ne_nil _ _), ← List.append_cons]

theorem isRelative (isWord : IsWord word) {text : String} {rest : List Char}
    (spelled : text.toList = word ++ '/' :: rest) : IsRelative text := by
  constructor
  case noScheme =>
    rw [spelled, isWord.clean_slash]
    exact isWord.splitScheme_slash _
  case notRooted =>
    rw [spelled, isWord.clean_slash]
    intro c first
    cases word with
    | nil => exact absurd rfl isWord.nonempty
    | cons head more =>
        cases first
        exact (isWord.char List.mem_cons_self).2.2.1

end IsWord

/-! ## Joining -/

theorem withPath_scheme (scheme : String) (authority : Option Authority) (directory : List String)
    (cs : List Char) : (withPath scheme authority directory cs).scheme = scheme := rfl

theorem withPath_authority (scheme : String) (authority : Option Authority)
    (directory : List String) (cs : List Char) :
    (withPath scheme authority directory cs).authority = authority := rfl

theorem isSlash_of_not_special {special : Bool} {c : Char} (other : isSlash true c = false) :
    isSlash special c = false := by
  unfold isSlash at other ⊢
  cases special with
  | true => exact other
  | false =>
      rw [Bool.or_eq_false_iff] at other
      rw [other.1]
      rfl

/-- Without a slash at the front, a text changes the query or the fragment only, or else its path is
followed from the directory of the base. -/
theorem readRelative_cases {base : Url} {cs : List Char}
    (notRooted : ∀ c ∈ cs.head?, isSlash true c = false) :
    ((spanPath cs).1 = [] ∧
      ∃ query fragment, readRelative base cs = .ok { base with query, fragment }) ∨
    readRelative base cs = .ok (withPath base.scheme base.authority base.path.directory cs) := by
  unfold readRelative
  dsimp only
  split
  case h_1 => exact .inl ⟨rfl, _, _, rfl⟩
  case h_2 => exact .inl ⟨rfl, _, _, rfl⟩
  case h_3 => exact .inl ⟨rfl, _, _, rfl⟩
  case h_4 c rest _ _ =>
    have inside : isSlash (isSpecial base.scheme) c = false :=
      isSlash_of_not_special (notRooted c rfl)
    right
    rw [if_neg (by rw [inside]; decide)]

theorem join_of_isRelative {base : Url} {text : String} (relative : IsRelative text) :
    join base text = readRelative base (clean text.toList) ∨
      join base text = .error .relativeToRootless ∧ ∃ rootless, base.path = .rootless rootless := by
  unfold join
  dsimp only
  rw [relative.noScheme]
  dsimp only
  split
  case h_1 => exact .inl rfl
  case h_2 rootless same _ => exact .inr ⟨rfl, rootless, same⟩
  case h_3 => exact .inl rfl

theorem join_of_rooted {base : Url} {list : List String} (rooted : base.path = .segments list)
    {text : String} (relative : IsRelative text) :
    join base text = readRelative base (clean text.toList) := by
  rcases join_of_isRelative relative with same | ⟨-, rootless, other⟩
  · exact same
  · rw [rooted] at other
    cases other

/-- A text that begins with a word is followed from the directory of the base, if there is one. -/
theorem IsWord.join_eq {word : List Char} (isWord : IsWord word) {text : String} {rest : List Char}
    (spelled : text.toList = word ++ '/' :: rest) (base : Url) :
    join base text = match base.path with
      | .segments list =>
          .ok (withPath base.scheme base.authority list.dropLast (clean text.toList))
      | .rootless _ => .error .relativeToRootless := by
  have relative := isWord.isRelative spelled
  obtain ⟨c, more, cleaned, notQuery, notFragment⟩ :
      ∃ c more, clean text.toList = c :: more ∧ c ≠ '?' ∧ c ≠ '#' := by
    rw [spelled, isWord.clean_slash]
    cases word with
    | nil => exact absurd rfl isWord.nonempty
    | cons c more => exact ⟨c, _, rfl, (isWord.char List.mem_cons_self).2.2.2⟩
  cases place : base.path with
  | segments list =>
      rw [join_of_rooted place relative]
      rcases @readRelative_cases base _ relative.notRooted with ⟨nothing, -⟩ | read
      · simp [cleaned, spanPath, List.span_eq_takeWhile_dropWhile, notQuery, notFragment] at nothing
      · rw [read, place]
        rfl
  | rootless text =>
      unfold join
      dsimp only
      rw [relative.noScheme, cleaned, place]
      dsimp only
      split
      case h_1 same => exact absurd (List.cons.inj same).1 notFragment
      case h_2 => rfl
      case h_3 other => exact absurd rfl (other text)

/-- A relative text leads nowhere but to where the base is. -/
theorem join_origin {base url : Url} {text : String} (relative : IsRelative text)
    (joined : join base text = .ok url) :
    url.scheme = base.scheme ∧ url.authority = base.authority := by
  rcases join_of_isRelative relative with same | ⟨failed, -⟩
  · rw [same] at joined
    rcases @readRelative_cases base _ relative.notRooted with ⟨-, _, _, read⟩ | read
    · rw [read] at joined
      cases joined
      exact ⟨rfl, rfl⟩
    · rw [read] at joined
      cases joined
      exact ⟨rfl, rfl⟩
  · rw [failed] at joined
    cases joined

/-! ## Splitting -/

theorem spanPath_eq (cs : List Char) : spanPath cs =
    (cs.takeWhile fun c => c ≠ '?' ∧ c ≠ '#', cs.dropWhile fun c => c ≠ '?' ∧ c ≠ '#') :=
  List.span_eq_takeWhile_dropWhile _ _

theorem spanPath_append {front : List Char} (unmarked : ∀ c ∈ front, c ≠ '?' ∧ c ≠ '#')
    (rest : List Char) :
    spanPath (front ++ rest) = (front ++ (spanPath rest).1, (spanPath rest).2) := by
  have all : ∀ c ∈ front, decide (c ≠ '?' ∧ c ≠ '#') = true := fun c member =>
    decide_eq_true (unmarked c member)
  rw [spanPath_eq, spanPath_eq, List.takeWhile_append_of_pos all, List.dropWhile_append_of_pos all]

theorem spanPath_unmarked {cs : List Char} (unmarked : ∀ c ∈ cs, c ≠ '?' ∧ c ≠ '#') :
    spanPath cs = (cs, []) := by
  have all : ∀ c ∈ cs, decide (c ≠ '?' ∧ c ≠ '#') = true := fun c member =>
    decide_eq_true (unmarked c member)
  rw [spanPath_eq, List.takeWhile_eq_self_iff.mpr all, List.dropWhile_eq_nil_iff.mpr all]

theorem splitSegments_slash {special : Bool} {segment : List Char}
    (whole : ∀ c ∈ segment, isSlash special c = false) (rest : List Char) :
    splitSegments special (segment ++ '/' :: rest) =
      encode inPathSet segment :: splitSegments special rest := by
  rw [splitSegments, List.splitOnP_append_cons_of_forall_mem whole '/' rfl]
  rfl

theorem splitSegments_whole {special : Bool} {segment : List Char}
    (whole : ∀ c ∈ segment, isSlash special c = false) :
    splitSegments special segment = [encode inPathSet segment] := by
  rw [splitSegments, List.splitOnP_eq_singleton whole]
  rfl

/-! ## Following segments -/

theorem followSegments_cons {segment : List Char} (notDot : isDot segment = false)
    (notDoubleDot : isDoubleDot segment = false) (directory : List String)
    {rest : List (List Char)} (more : rest ≠ []) :
    followSegments directory (segment :: rest) =
      followSegments (directory ++ [String.ofList segment]) rest := by
  cases rest with
  | nil => exact absurd rfl more
  | cons next rest =>
      rw [followSegments, notDoubleDot, notDot]
      · rfl
      · exact List.cons_ne_nil next rest

/-- Whether segments that are followed from a place so many levels below a directory never lead
above it. -/
def stays : Nat → List (List Char) → Bool
  | _, [] => false
  | depth, [last] => !isDoubleDot last || 0 < depth
  | depth, segment :: rest =>
      if isDoubleDot segment then 0 < depth && stays (depth - 1) rest
      else if isDot segment then stays depth rest
      else stays (depth + 1) rest

/-- Segments that stay below a directory leave it as it is, and go on from there. -/
theorem exists_followSegments {base below : List String} {segments : List (List Char)}
    (staying : stays below.length segments = true) :
    ∃ tail, tail ≠ [] ∧ followSegments (base ++ below) segments = base ++ tail := by
  induction segments generalizing below with
  | nil => cases staying
  | cons segment rest ih =>
      have parent (deep : 0 < below.length) :
          (base ++ below).dropLast = base ++ below.dropLast :=
        List.dropLast_append_of_ne_nil (List.length_pos_iff.mp deep)
      cases rest with
      | nil =>
          rw [followSegments]
          by_cases up : isDoubleDot segment = true
          · rw [stays, up] at staying
            rw [if_pos up, parent (by simpa using staying), List.append_assoc]
            exact ⟨below.dropLast ++ [""], List.concat_ne_nil _ _, rfl⟩
          · rw [if_neg up, List.append_assoc, List.append_assoc]
            split
            · exact ⟨below ++ [""], List.concat_ne_nil _ _, rfl⟩
            · exact ⟨below ++ [String.ofList segment], List.concat_ne_nil _ _, rfl⟩
      | cons next more =>
          have steps : followSegments (base ++ below) (segment :: next :: more) =
              if isDoubleDot segment then followSegments (base ++ below).dropLast (next :: more)
              else if isDot segment then followSegments (base ++ below) (next :: more)
              else followSegments (base ++ below ++ [String.ofList segment]) (next :: more) := rfl
          have stepped : stays below.length (segment :: next :: more) =
              if isDoubleDot segment then
                0 < below.length && stays (below.length - 1) (next :: more)
              else if isDot segment then stays below.length (next :: more)
              else stays (below.length + 1) (next :: more) := rfl
          rw [steps]
          rw [stepped] at staying
          by_cases up : isDoubleDot segment = true
          · rw [if_pos up, Bool.and_eq_true, decide_eq_true_iff, ← List.length_dropLast] at staying
            rw [if_pos up, parent staying.1]
            exact ih staying.2
          · rw [if_neg up] at staying ⊢
            by_cases here : isDot segment = true
            · rw [if_pos here] at staying ⊢
              exact ih staying
            · rw [if_neg here] at staying ⊢
              rw [List.append_assoc]
              refine ih ?_
              rw [List.length_append, List.length_singleton]
              exact staying

/-- A relative text whose path never leads above the directory that it is followed from. -/
structure Descends (text : String) : Prop extends IsRelative text where
  staying : stays 0 (splitSegments true (spanPath (clean text.toList)).1) = true

/-- What a descending text leads to from a directory is below that directory. -/
theorem join_below {base : Url} {directory : List String} {text : String}
    (special : isSpecial base.scheme = true) (path : base.path = .segments (directory ++ [""]))
    (descends : Descends text) :
    ∃ url tail, join base text = .ok url ∧ url.scheme = base.scheme ∧
      url.authority = base.authority ∧ tail ≠ [] ∧ url.path = .segments (directory ++ tail) := by
  have joined := join_of_rooted path descends.toIsRelative
  rcases @readRelative_cases base _ descends.notRooted with ⟨-, query, fragment, read⟩ | read
  · exact ⟨{ base with query, fragment }, [""], joined.trans read, rfl, rfl,
      List.cons_ne_nil _ _, path⟩
  · have here : base.path.directory = directory ++ [] := by
      rw [path, Path.directory, List.dropLast_concat, List.append_nil]
    obtain ⟨tail, some, followed⟩ :=
      @exists_followSegments directory [] _ descends.staying
    refine ⟨_, tail, joined.trans read, rfl, rfl, some, ?_⟩
    rw [withPath, special, here]
    exact congrArg Path.segments followed

/-- Below two words, a text without slashes cannot climb above them: not even dots lead further up
than to the first of the words. -/
theorem IsWord.descends {one two : List Char} (first : IsWord one) (second : IsWord two)
    {text : String} {rest : List Char} (spelled : text.toList = one ++ '/' :: (two ++ '/' :: rest))
    (whole : ∀ c ∈ rest, isSlash true c = false) : Descends text := by
  have front : one ++ '/' :: (two ++ '/' :: rest) = (one ++ '/' :: (two ++ ['/'])) ++ rest := by
    simp
  have chars : ∀ c ∈ one ++ '/' :: (two ++ ['/']), isEdge c = false ∧ c ≠ '?' ∧ c ≠ '#' := by
    intro c member
    simp only [List.mem_append, List.mem_cons, List.not_mem_nil, or_false] at member
    rcases member with inside | rfl | inside | rfl
    · exact ⟨(first.char inside).2.1, (first.char inside).2.2.2⟩
    · decide
    · exact ⟨(second.char inside).2.1, (second.char inside).2.2.2⟩
    · decide
  have cleaned : clean text.toList = (one ++ '/' :: (two ++ ['/'])) ++ cleanEnd rest := by
    rw [spelled, front, clean_append (fun c member => (chars c member).1) (by simp)]
  have below : ∀ c ∈ (spanPath (cleanEnd rest)).1, isSlash true c = false := by
    intro c member
    rw [spanPath_eq] at member
    have kept := (List.takeWhile_sublist _).mem member
    have trimmed := List.mem_reverse.mp (List.mem_filter.mp kept).1
    exact whole c (List.mem_reverse.mp ((List.dropWhile_sublist _).mem trimmed))
  refine ⟨first.isRelative spelled, ?_⟩
  have segments : splitSegments true (spanPath (clean text.toList)).1 =
      [encode inPathSet one, encode inPathSet two,
        encode inPathSet (spanPath (cleanEnd rest)).1] := by
    rw [cleaned, spanPath_append fun c member => (chars c member).2]
    dsimp only
    rw [List.append_assoc, List.cons_append, List.append_assoc, List.singleton_append,
      splitSegments_slash fun c member => (first.char member).2.2.1,
      splitSegments_slash fun c member => (second.char member).2.2.1, splitSegments_whole below]
  rw [segments]
  simp [stays, first.notDot, first.notDoubleDot, second.notDot, second.notDoubleDot]

end NetConsole.Url
