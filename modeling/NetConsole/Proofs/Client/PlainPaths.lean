import NetConsole.Proofs.Client.Scope
import NetConsole.Proofs.Text.Ascii

/-!
# Plain paths

Where a path of letters, digits, hyphens and underscores leads: to just what it spells, below the
path prefix of the controller and, for a site, below the place of that site. It does not matter
whether the address of the controller ends in a slash.
-/

set_option autoImplicit false

namespace NetConsole

namespace Url

/-! ## Characters -/

/-- A letter, a digit, a hyphen or an underscore of ASCII. -/
def isPlainChar (c : Char) : Bool := c.isAlphanum || c == '-' || c == '_'

/-- A character that may stand in a path after its first slash: a plain one or a colon. -/
def isPathChar (c : Char) : Bool := isPlainChar c || c == ':'

/-- A character that a path bears as it is: none that is dropped, escaped, ends the path or a
segment of it, or belongs to the spelling of a dot. -/
structure Passes (c : Char) : Prop where
  visible : isEdge c = false
  inside : isSlash true c = false
  notQuery : c ≠ '?'
  notFragment : c ≠ '#'
  unescaped : inPathSet c = false
  notDot : c.toLower ≠ '.'
  notPercent : c.toLower ≠ '%'

instance (c : Char) : Decidable (Passes c) :=
  decidable_of_iff (isEdge c = false ∧ isSlash true c = false ∧ c ≠ '?' ∧ c ≠ '#' ∧
      inPathSet c = false ∧ c.toLower ≠ '.' ∧ c.toLower ≠ '%')
    ⟨fun ⟨one, two, three, four, five, six, seven⟩ => ⟨one, two, three, four, five, six, seven⟩,
      fun ⟨one, two, three, four, five, six, seven⟩ => ⟨one, two, three, four, five, six, seven⟩⟩

theorem passes_of_isPathChar {c : Char} (allowed : isPathChar c = true) : Passes c := by
  have ascii : c.toNat < 128 := by
    simp only [isPathChar, isPlainChar, Bool.or_eq_true, beq_iff_eq] at allowed
    rcases allowed with ((alphanumeric | rfl) | rfl) | rfl
    · have spread := Text.toNat_of_isAlphanum alphanumeric
      omega
    all_goals decide
  have each : ∀ n < 128, isPathChar (Char.ofNat n) = true → Passes (Char.ofNat n) := by decide
  exact @Text.forall_ascii (fun c => isPathChar c = true → Passes c) each c ascii allowed

theorem isPathChar_of_isPlainChar {c : Char} (plain : isPlainChar c = true) :
    isPathChar c = true := by
  rw [isPathChar, plain]
  rfl

/-! ## Segments -/

/-- A segment of plain characters. -/
structure IsPlain (segment : String) : Prop where
  nonempty : segment ≠ ""
  chars : ∀ c ∈ segment.toList, isPlainChar c = true

instance (segment : String) : Decidable (IsPlain segment) :=
  decidable_of_iff (segment ≠ "" ∧ segment.toList.all isPlainChar = true)
    ⟨fun ⟨nonempty, all⟩ => ⟨nonempty, List.all_eq_true.mp all⟩,
      fun ⟨nonempty, chars⟩ => ⟨nonempty, List.all_eq_true.mpr chars⟩⟩

/-- A segment of characters that may stand in a path; it may be empty. -/
def IsPathText (segment : String) : Prop := ∀ c ∈ segment.toList, isPathChar c = true

instance (segment : String) : Decidable (IsPathText segment) :=
  decidable_of_iff (segment.toList.all isPathChar = true) List.all_eq_true

theorem IsPlain.isPathText {segment : String} (plain : IsPlain segment) : IsPathText segment :=
  fun c member => isPathChar_of_isPlainChar (plain.chars c member)

/-- The segments of a path as requests are worded: the first one is plain, and there may be colons
in later ones. -/
def Orderly : List String → Prop
  | [] => True
  | first :: later => IsPlain first ∧ ∀ segment ∈ later, IsPathText segment

/-- The text of a path with such segments. -/
def pathOf (segments : List String) : String := "/".intercalate segments

theorem Orderly.passes {segments : List String} (orderly : Orderly segments) :
    ∀ segment ∈ segments, ∀ c ∈ segment.toList, Passes c := by
  cases segments with
  | nil => exact fun _ member => absurd member List.not_mem_nil
  | cons first later =>
      refine List.forall_mem_cons.mpr ⟨fun c member => ?_, fun segment member c inside => ?_⟩
      · exact passes_of_isPathChar (orderly.1.isPathText c member)
      · exact passes_of_isPathChar (orderly.2 segment member c inside)

theorem encode_of_passes {cs : List Char} (passes : ∀ c ∈ cs, Passes c) :
    encode inPathSet cs = cs := by
  have each : ∀ c ∈ cs, encodeChar inPathSet c = [c] := fun c member =>
    if_neg (by rw [(passes c member).unescaped]; exact Bool.false_ne_true)
  rw [encode, List.flatMap_congr each, List.flatMap_singleton']

theorem isDot_of_passes {cs : List Char} (passes : ∀ c ∈ cs, Passes c) :
    isDot cs = false ∧ isDoubleDot cs = false := by
  cases cs with
  | nil => decide
  | cons c rest =>
      have first := passes c List.mem_cons_self
      simp [isDot, isDoubleDot, first.notDot, first.notPercent]

theorem pathOf_cons {first second : String} {rest : List String} :
    (pathOf (first :: second :: rest)).toList =
      first.toList ++ '/' :: (pathOf (second :: rest)).toList := by
  rw [pathOf, String.intercalate_cons_cons, String.toList_append, String.toList_append,
    List.append_assoc]
  rfl

theorem pathOf_singleton (segment : String) : pathOf [segment] = segment :=
  String.intercalate_singleton

/-- What there is in the text of a path: what there is in its segments, and slashes. -/
theorem mem_pathOf {segments : List String} {c : Char} (member : c ∈ (pathOf segments).toList) :
    c = '/' ∨ ∃ segment ∈ segments, c ∈ segment.toList := by
  induction segments with
  | nil => cases member
  | cons first rest ih =>
      cases rest with
      | nil =>
          rw [pathOf_singleton] at member
          exact .inr ⟨first, List.mem_cons_self, member⟩
      | cons second rest =>
          rw [pathOf_cons] at member
          rcases List.mem_append.mp member with here | later
          · exact .inr ⟨first, List.mem_cons_self, here⟩
          · rcases List.mem_cons.mp later with slash | later
            · exact .inl slash
            · rcases ih later with slash | ⟨segment, there, inside⟩
              · exact .inl slash
              · exact .inr ⟨segment, List.mem_cons_of_mem _ there, inside⟩

theorem splitSegments_pathOf {segments : List String} (some : segments ≠ [])
    (passes : ∀ segment ∈ segments, ∀ c ∈ segment.toList, Passes c) :
    splitSegments true (pathOf segments).toList = segments.map String.toList := by
  induction segments with
  | nil => exact absurd rfl some
  | cons first rest ih =>
      obtain ⟨own, others⟩ := List.forall_mem_cons.mp passes
      have whole : ∀ c ∈ first.toList, isSlash true c = false := fun c member =>
        (own c member).inside
      cases rest with
      | nil => rw [pathOf_singleton, splitSegments_whole whole, encode_of_passes own]; rfl
      | cons second rest =>
          rw [pathOf_cons, splitSegments_slash whole, encode_of_passes own,
            ih (List.cons_ne_nil _ _) others]
          rfl

theorem followSegments_of_passes {segments : List String} (directory : List String)
    (passes : ∀ segment ∈ segments, ∀ c ∈ segment.toList, Passes c) :
    followSegments directory (segments.map String.toList) = directory ++ segments := by
  induction segments generalizing directory with
  | nil => exact (List.append_nil directory).symm
  | cons first rest ih =>
      obtain ⟨own, others⟩ := List.forall_mem_cons.mp passes
      obtain ⟨notDot, notDoubleDot⟩ := isDot_of_passes own
      cases rest with
      | nil => simp [followSegments, notDot, notDoubleDot]
      | cons second rest =>
          rw [List.map_cons, followSegments_cons notDot notDoubleDot directory (by simp), ih _ others,
            String.ofList_toList, ← List.append_cons]

/-! ## Joining -/

theorem clean_of_visible {cs : List Char} (visible : ∀ c ∈ cs, isEdge c = false) :
    clean cs = cs := by
  cases cs with
  | nil => rfl
  | cons c rest =>
      have whole := clean_append visible (List.cons_ne_nil c rest) []
      rw [List.append_nil] at whole
      exact whole.trans (List.append_nil _)

/-- A text has no scheme if something else than a colon comes after what could be one. -/
theorem splitScheme_eq_none {cs : List Char}
    (after : ∀ rest, cs.dropWhile isSchemeChar ≠ ':' :: rest) : splitScheme cs = none := by
  unfold splitScheme
  split
  case h_1 c rest =>
    split
    case isTrue =>
      split
      case h_1 more same => exact absurd same (after more)
      case h_2 => rfl
    case isFalse => rfl
  case h_2 => rfl

theorem dropWhile_append_ne {first rest : List Char} {p : Char → Bool} (colon : ':' ∉ first)
    (after : rest = [] ∨ ∃ more, rest = '/' :: more) (slash : p '/' = false) (more : List Char) :
    (first ++ rest).dropWhile p ≠ ':' :: more := by
  intro same
  rw [List.dropWhile_append] at same
  split at same
  case isTrue =>
    rcases after with rfl | ⟨others, rfl⟩
    · cases same
    · rw [List.dropWhile_cons_of_neg (by rw [slash]; exact Bool.false_ne_true)] at same
      cases same
  case isFalse some =>
    cases left : first.dropWhile p with
    | nil => exact some (by rw [left]; rfl)
    | cons c others =>
        rw [left] at same
        cases same
        have own : ':' ∈ first.dropWhile p := by
          rw [left]
          exact List.mem_cons_self
        exact colon ((List.dropWhile_sublist p).mem own)

/-- The text of orderly segments is relative: a colon comes after a slash only. -/
theorem Orderly.isRelative {segments : List String} (orderly : Orderly segments) :
    clean (pathOf segments).toList = (pathOf segments).toList ∧ IsRelative (pathOf segments) := by
  have visible : ∀ c ∈ (pathOf segments).toList, isEdge c = false := by
    intro c member
    rcases mem_pathOf member with rfl | ⟨segment, there, inside⟩
    · decide
    · exact (orderly.passes segment there c inside).visible
  have cleaned := clean_of_visible visible
  refine ⟨cleaned, ?_⟩
  cases segments with
  | nil => exact ⟨by rw [cleaned]; rfl, by rw [cleaned]; exact fun _ first => by cases first⟩
  | cons first later =>
      have passes := orderly.passes first List.mem_cons_self
      obtain ⟨rest, spelled, after⟩ : ∃ rest, (pathOf (first :: later)).toList =
          first.toList ++ rest ∧ (rest = [] ∨ ∃ more, rest = '/' :: more) := by
        cases later with
        | nil => exact ⟨[], by rw [pathOf_singleton, List.append_nil], .inl rfl⟩
        | cons second others => exact ⟨_, pathOf_cons, .inr ⟨_, rfl⟩⟩
      constructor
      case noScheme =>
        rw [cleaned, spelled]
        refine splitScheme_eq_none (dropWhile_append_ne (fun colon => ?_) after rfl)
        exact absurd (orderly.1.chars ':' colon) (by decide)
      case notRooted =>
        rw [cleaned, spelled]
        intro c head
        cases chars : first.toList with
        | nil => exact absurd (String.toList_eq_nil_iff.mp chars) orderly.1.nonempty
        | cons own others =>
            rw [chars] at head passes
            cases head
            exact (passes c List.mem_cons_self).inside

/-- Orderly segments lead from a directory to just what they spell. -/
theorem join_pathOf {base : Url} {directory segments : List String}
    (special : isSpecial base.scheme = true) (place : base.path = .segments (directory ++ [""]))
    (some : segments ≠ []) (orderly : Orderly segments) :
    base.join (pathOf segments) = .ok
      { base with path := .segments (directory ++ segments), query := none, fragment := none } := by
  obtain ⟨cleaned, relative⟩ := orderly.isRelative
  have passes := orderly.passes
  have unmarked : ∀ c ∈ (pathOf segments).toList, c ≠ '?' ∧ c ≠ '#' := by
    intro c member
    rcases mem_pathOf member with rfl | ⟨segment, there, inside⟩
    · decide
    · exact ⟨(passes segment there c inside).notQuery, (passes segment there c inside).notFragment⟩
  have spanned := spanPath_unmarked unmarked
  have joined := join_of_rooted place relative
  rw [cleaned] at joined
  rcases @readRelative_cases base _ (cleaned ▸ relative.notRooted) with ⟨nothing, -⟩ | read
  · rw [spanned] at nothing
    cases segments with
    | nil => exact absurd rfl some
    | cons first later =>
        have empty : first.toList = [] := by
          cases later with
          | nil => rwa [pathOf_singleton] at nothing
          | cons second others =>
              rw [pathOf_cons] at nothing
              exact absurd nothing (by simp)
        exact absurd (String.toList_eq_nil_iff.mp empty) orderly.1.nonempty
  · have here : base.path.directory = directory := by
      rw [place, Path.directory, List.dropLast_concat]
    rw [joined, read, withPath, special, spanned, here]
    dsimp only
    rw [splitSegments_pathOf some passes, followSegments_of_passes directory passes]
    rfl

/-! ## Texts of paths -/

theorem text_append (front back : List String) :
    (Path.segments (front ++ back)).text =
      (Path.segments front).text ++ (Path.segments back).text := by
  rw [Path.text, List.map_append, String.join_append]
  rfl

theorem text_segments {segments : List String} (some : segments ≠ []) :
    (Path.segments segments).text = "/" ++ pathOf segments := by
  induction segments with
  | nil => exact absurd rfl some
  | cons first rest ih =>
      cases rest with
      | nil => simp [Path.text, pathOf, String.join_cons]
      | cons second rest =>
          have rest := ih (List.cons_ne_nil _ _)
          simp only [Path.text, List.map_cons, String.join_cons] at rest ⊢
          rw [rest, pathOf, pathOf, String.intercalate_cons_cons]
          simp only [String.append_assoc]

/-- A URL is where a controller is, and has a path of segments with a text, and no query. -/
structure LiesAt (url controller : Url) (text : String) : Prop where
  scheme : url.scheme = controller.scheme
  authority : url.authority = controller.authority
  rooted : ∃ list, url.path = .segments list
  path : url.path.text = text
  query : url.query = none
  fragment : url.fragment = none

/-- Orderly segments lead from a base without a query to the path of its directory with the text of
the segments after it. -/
theorem exists_liesAt {controller base : Url} {directory segments : List String}
    (special : isSpecial controller.scheme = true) (scheme : base.scheme = controller.scheme)
    (authority : base.authority = controller.authority)
    (place : base.path = .segments (directory ++ [""])) (query : base.query = none)
    (orderly : Orderly segments) :
    ∃ url, (base.join (pathOf segments)).mapError ClientError.invalidUrl = .ok url ∧
      url.LiesAt controller ((Path.segments directory).text ++ "/" ++ pathOf segments) := by
  by_cases some : segments = []
  · subst some
    have joined : base.join (pathOf []) = .ok { base with fragment := none } :=
      join_of_rooted place orderly.isRelative.2
    rw [joined]
    refine ⟨_, rfl, scheme, authority, ⟨_, place⟩, ?_, query, rfl⟩
    change base.path.text = _
    rw [place, text_append, text_segments (List.cons_ne_nil _ _), String.append_assoc]
    rfl
  · rw [← scheme] at special
    rw [join_pathOf special place some orderly]
    refine ⟨_, rfl, scheme, authority, ⟨_, rfl⟩, ?_, rfl, rfl⟩
    rw [text_append, text_segments some, String.append_assoc]

end Url

open Url

namespace Session

/-- A controller whose path prefix is made of plain segments, with or without a slash at the end, and
whose address has no query. -/
structure IsPlain (controller : Url) (names : List String) : Prop where
  http : controller.isHttp = true
  path : controller.path = .segments names ∨ controller.path = .segments (names ++ [""])
  plain : ∀ name ∈ names, Url.IsPlain name
  query : controller.query = none

theorem withTrailingSlash_bare {controller : Url} {names : List String}
    (plain : ∀ name ∈ names, Url.IsPlain name) :
    withTrailingSlash { controller with path := .segments names } =
      { controller with path := .segments (names ++ [""]) } := by
  have unclosed : names.getLast? ≠ some "" := fun last =>
    (plain "" (List.mem_of_getLast? last)).nonempty rfl
  rw [withTrailingSlash]
  exact if_neg unclosed

theorem withTrailingSlash_slash (controller : Url) (names : List String) :
    withTrailingSlash { controller with path := .segments (names ++ [""]) } =
      { controller with path := .segments (names ++ [""]) } := by
  rw [withTrailingSlash]
  exact if_pos List.getLast?_concat

theorem IsPlain.root {controller : Url} {names : List String} (plain : IsPlain controller names) :
    controller.withTrailingSlash = { controller with path := .segments (names ++ [""]) } := by
  obtain ⟨scheme, authority, path, query, fragment⟩ := controller
  rcases plain.path with rfl | rfl
  · exact @withTrailingSlash_bare ⟨scheme, authority, .segments names, query, fragment⟩ _ plain.plain
  · exact withTrailingSlash_slash ⟨scheme, authority, .segments (names ++ [""]), query, fragment⟩ _

theorem join_plain_site {controller : Url} {names : List String} (plain : IsPlain controller names)
    {site : String} (plainSite : Url.IsPlain site) :
    controller.withTrailingSlash.join ("api/s/" ++ site ++ "/") = .ok
      { controller with
        path := .segments (names ++ ["api", "s", site] ++ [""]), query := none, fragment := none } := by
  have spelled : "api/s/" ++ site ++ "/" = pathOf ["api", "s", site, ""] := by
    rw [← String.toList_inj]
    simp [pathOf]
  have orderly : Orderly ["api", "s", site, ""] := by
    refine ⟨by decide, ?_⟩
    intro segment member
    simp only [List.mem_cons, List.not_mem_nil, or_false] at member
    rcases member with rfl | rfl | rfl
    · decide
    · exact plainSite.isPathText
    · decide
  have special : isSpecial controller.scheme = true := isSpecial_of_isHttp plain.http
  have joined := @join_pathOf { controller with path := .segments (names ++ [""]) } names
    ["api", "s", site, ""] special rfl (List.cons_ne_nil _ _) orderly
  rw [plain.root, spelled, joined, List.append_assoc]
  rfl

/-- With a plain controller and a plain site, a path of orderly segments leads to the place of the
site with the text of the path after it, and after a slash, to the path prefix of the controller
with that text after it. A slash at the end of the controller's address changes no session, and so
no URL of any path. -/
theorem resolve_plain {controller : Url} {names : List String} (plain : IsPlain controller names)
    {site : String} (plainSite : Url.IsPlain site) :
    (∃ session, open? controller site = .ok session ∧
      (∀ segments, Orderly segments → ∃ url, session.resolve (pathOf segments) = .ok url ∧
        url.LiesAt controller
          ((Path.segments names).text ++ "/api/s/" ++ site ++ "/" ++ pathOf segments)) ∧
      ∀ segments, Orderly segments → ∃ url, session.resolve ("/" ++ pathOf segments) = .ok url ∧
        url.LiesAt controller ((Path.segments names).text ++ "/" ++ pathOf segments)) ∧
    ∀ any, open? { controller with path := .segments names } any =
      open? { controller with path := .segments (names ++ [""]) } any := by
  have special := isSpecial_of_isHttp plain.http
  constructor
  · let place : Url :=
      { controller with
        path := .segments (names ++ ["api", "s", site] ++ [""]), query := none, fragment := none }
    refine ⟨⟨controller.withTrailingSlash, place, site, defaultUserAgent⟩, ?opened, ?site, ?above⟩
    case opened =>
      rw [open?, if_neg plainSite.nonempty]
      dsimp only
      rw [join_plain_site plain plainSite]
    case site =>
      intro segments orderly
      have spelled : (Path.segments names).text ++ "/api/s/" ++ site =
          (Path.segments (names ++ ["api", "s", site])).text := by
        rw [text_append, text_segments (List.cons_ne_nil _ _), ← String.toList_inj]
        simp [pathOf]
      rw [resolve_of_isRelative _ orderly.isRelative.2, spelled]
      exact exists_liesAt special rfl rfl rfl rfl orderly
    case above =>
      intro segments orderly
      rw [resolve_slash, plain.root]
      exact exists_liesAt special rfl rfl rfl plain.query orderly
  · intro any
    rw [open?, open?, withTrailingSlash_bare plain.plain, withTrailingSlash_slash]

theorem resolve_plain_sample :
    ∃ session, open? console "default" = .ok session ∧
      ∃ url, session.resolve "stat/device/aa:bb" = .ok url ∧
        url.LiesAt console "/proxy/network/api/s/default/stat/device/aa:bb" := by
  have plain : IsPlain console ["proxy", "network"] :=
    ⟨rfl, .inl rfl, by decide, rfl⟩
  have plainSite : Url.IsPlain "default" := by decide
  obtain ⟨⟨session, opened, site, -⟩, -⟩ := resolve_plain plain plainSite
  have orderly : Orderly ["stat", "device", "aa:bb"] := ⟨by decide, by decide⟩
  exact ⟨session, opened, site _ orderly⟩

end Session

end NetConsole
