import NetConsole.Client.Orders
import NetConsole.Proofs.Stepwise
import NetConsole.Proofs.Url.Joining
import Mathlib.Data.List.Basic

/-!
# The scope of paths

Where the paths of a session lead. Below the root of the controller, and below the place of the site
if they belong to one, as long as the site is one segment and the path does not climb. A site of
dots or an address with slashes gets out.
-/

set_option autoImplicit false

namespace NetConsole

namespace Url

/-! ## Web addresses -/

/-- A web address as it is read: its path is one of segments. -/
structure IsWeb (url : Url) : Prop where
  http : url.isHttp = true
  rooted : ∃ list, url.path = .segments list

theorem isSpecial_of_isHttp {url : Url} (http : url.isHttp = true) :
    isSpecial url.scheme = true := by
  unfold isHttp at http
  rcases (Bool.or_eq_true _ _).mp http with same | same
  · rw [beq_iff_eq.mp same]
    rfl
  · rw [beq_iff_eq.mp same]
    rfl

theorem rooted_of_readAfterSlashes {scheme : String} {cs : List Char} {url : Url}
    (read : readAfterSlashes scheme cs = .ok url) : ∃ list, url.path = .segments list := by
  unfold readAfterSlashes at read
  dsimp only at read
  obtain ⟨authority, -, read⟩ := Stepwise.bind_eq_ok.mp read
  split at read
  · split at read
    · cases read
      exact ⟨_, rfl⟩
    · split at read
      · cases read
        exact ⟨_, rfl⟩
      · cases read
        exact ⟨_, rfl⟩
  · cases read
    exact ⟨_, rfl⟩

theorem scheme_of_readPlain {scheme : String} {cs : List Char} {url : Url}
    (read : readPlain scheme cs = .ok url) :
    url.scheme = scheme ∨ ∃ list, url.path = .segments list := by
  unfold readPlain at read
  split at read
  · exact .inr (rooted_of_readAfterSlashes read)
  · cases read
    exact .inl rfl
  · cases read
    exact .inl rfl

theorem rooted_of_readFile {cs : List Char} {url : Url} (read : readFile cs = .ok url) :
    ∃ list, url.path = .segments list := by
  unfold readFile at read
  split at read
  · dsimp only at read
    split at read
    · split at read
      · cases read
        exact ⟨_, rfl⟩
      · obtain ⟨host, -, read⟩ := Stepwise.bind_eq_ok.mp read
        cases read
        exact ⟨_, rfl⟩
    · split at read
      · cases read
        exact ⟨_, rfl⟩
      · cases read
        exact ⟨_, rfl⟩
  · cases read
    exact ⟨_, rfl⟩
  · cases read
    exact ⟨_, rfl⟩

/-- Every web address that is read has a path of segments. -/
theorem isWeb_of_parse {text : String} {url : Url} (read : parse text = .ok url)
    (http : url.isHttp = true) : url.IsWeb := by
  refine ⟨http, ?_⟩
  unfold parse at read
  split at read
  case h_2 => cases read
  case h_1 scheme rest _ =>
    unfold readAbsolute at read
    split at read
    case isTrue => exact rooted_of_readFile read
    case isFalse =>
      split at read
      case isTrue => exact rooted_of_readAfterSlashes read
      case isFalse plain =>
        rcases scheme_of_readPlain read with same | rooted
        · rw [← same, isSpecial_of_isHttp http] at plain
          exact absurd rfl plain
        · exact rooted

/-- The segments below which the paths of a controller are: its path prefix. -/
def scope (url : Url) : List String := url.withTrailingSlash.path.directory

theorem withTrailingSlash_scheme (url : Url) : url.withTrailingSlash.scheme = url.scheme := by
  unfold withTrailingSlash
  split
  · split <;> rfl
  · rfl

theorem withTrailingSlash_authority (url : Url) :
    url.withTrailingSlash.authority = url.authority := by
  unfold withTrailingSlash
  split
  · split <;> rfl
  · rfl

theorem IsWeb.root_path {url : Url} (web : url.IsWeb) :
    url.withTrailingSlash.path = .segments (url.scope ++ [""]) := by
  obtain ⟨list, rooted⟩ := web.rooted
  unfold scope withTrailingSlash
  rw [rooted]
  dsimp only
  split
  case isTrue ended =>
    rw [rooted, Path.directory, List.dropLast_append_getLast? "" ended]
  case isFalse =>
    rw [Path.directory, List.dropLast_concat]

def segmentOf (text : String) : List Char := encode inPathSet (text.toList.filter isKept)

/-- A text that stands for one segment, and for no directory that has another name. -/
structure IsSegment (text : String) : Prop where
  plain : ∀ c ∈ text.toList, isSlash true c = false ∧ c ≠ '?' ∧ c ≠ '#'
  notDot : isDot (segmentOf text) = false
  notDoubleDot : isDoubleDot (segmentOf text) = false

end Url

open Url

/-! ## Sites -/

namespace Session

theorem clean_site (site : String) : clean ("api/s/" ++ site ++ "/").toList =
    ['a', 'p', 'i'] ++ '/' :: (['s'] ++ '/' :: (site.toList.filter isKept ++ ['/'])) := by
  have spelled : ("api/s/" ++ site ++ "/").toList =
      ['a', 'p', 'i', '/', 's', '/'] ++ (site.toList ++ ['/']) := by
    simp
  rw [spelled, clean_append (by simp [isEdge]) (by decide), cleanEnd_concat (by decide)]
  rfl

theorem isWord_api : IsWord ['a', 'p', 'i'] := by decide

theorem isRelative_site (site : String) : IsRelative ("api/s/" ++ site ++ "/") :=
  isWord_api.isRelative (show _ = _ ++ '/' :: ('s' :: '/' :: (site.toList ++ ['/'])) by simp)

theorem followSegments_site {site : String} (segment : IsSegment site) (directory : List String) :
    followSegments directory (splitSegments true (clean ("api/s/" ++ site ++ "/").toList)) =
      directory ++ ["api", "s", String.ofList (segmentOf site)] ++ [""] := by
  have whole : ∀ c ∈ site.toList.filter isKept, isSlash true c = false := fun c member =>
    (segment.plain c (List.mem_filter.mp member).1).1
  have segments : splitSegments true (clean ("api/s/" ++ site ++ "/").toList) =
      [['a', 'p', 'i'], ['s'], segmentOf site, []] := by
    rw [clean_site, splitSegments_slash (by simp [isSlash]),
      splitSegments_slash (by simp [isSlash]),
      splitSegments_slash whole, segmentOf]
    rfl
  rw [segments, followSegments_cons (by decide) (by decide) _ (List.cons_ne_nil _ _),
    followSegments_cons (by decide) (by decide) _ (List.cons_ne_nil _ _),
    followSegments_cons segment.notDot segment.notDoubleDot _ (List.cons_ne_nil _ _)]
  simp [followSegments, isDoubleDot, isDot]

theorem unmarked_site {site : String} (segment : IsSegment site) :
    ∀ c ∈ clean ("api/s/" ++ site ++ "/").toList, c ≠ '?' ∧ c ≠ '#' := by
  intro c member
  rw [clean_site] at member
  simp only [List.mem_append, List.mem_cons, List.not_mem_nil, or_false, List.mem_filter] at member
  rcases member with (rfl | rfl | rfl) | rfl | rfl | rfl | ⟨inside, -⟩ | rfl
  case inr.inr.inr.inr.inl => exact (segment.plain c inside).2
  all_goals decide

theorem join_site {controller : Url} (web : controller.IsWeb) {site : String}
    (segment : IsSegment site) :
    ∃ place, controller.withTrailingSlash.join ("api/s/" ++ site ++ "/") = .ok place ∧
      place.scheme = controller.scheme ∧ place.authority = controller.authority ∧
      place.path = .segments
        (controller.scope ++ ["api", "s", String.ofList (segmentOf site)] ++ [""]) := by
  have relative := isRelative_site site
  have joined := join_of_rooted web.root_path relative
  have spanned := spanPath_unmarked (unmarked_site segment)
  rcases @readRelative_cases controller.withTrailingSlash _ relative.notRooted with
    ⟨nothing, -⟩ | read
  · rw [spanned, clean_site] at nothing
    cases nothing
  · refine ⟨_, joined.trans read, ?_, ?_, ?_⟩
    · rw [withPath_scheme, withTrailingSlash_scheme]
    · rw [withPath_authority, withTrailingSlash_authority]
    · have special : isSpecial controller.withTrailingSlash.scheme = true := by
        rw [withTrailingSlash_scheme]
        exact isSpecial_of_isHttp web.http
      simp only [withPath, spanned, special, followSegments_site segment, scope]

theorem open?_of_isSegment {controller : Url} (web : controller.IsWeb) {site : String}
    (named : site ≠ "") (segment : IsSegment site) :
    ∃ session, open? controller site = .ok session ∧ session.root = controller.withTrailingSlash ∧
      session.siteBase.scheme = controller.scheme ∧
      session.siteBase.authority = controller.authority ∧
      session.siteBase.path = .segments
        (controller.scope ++ ["api", "s", String.ofList (segmentOf site)] ++ [""]) := by
  obtain ⟨place, joined, scheme, authority, path⟩ := join_site web segment
  refine ⟨⟨controller.withTrailingSlash, place, site, defaultUserAgent⟩, ?_, rfl, scheme, authority,
    path⟩
  rw [open?, if_neg named]
  dsimp only
  rw [joined]

/-! ## Paths -/

theorem resolve_slash (session : Session) (path : String) :
    session.resolve ("/" ++ path) = (session.root.join path).mapError ClientError.invalidUrl := by
  have spelled : ("/" ++ path).toList = '/' :: path.toList := by simp
  simp only [resolve, spelled, String.ofList_toList]
  cases session.root.join path <;> rfl

theorem slash_of_isRelative {path : String} (relative : IsRelative path) :
    ∀ rest, path.toList ≠ '/' :: rest := by
  intro rest spelled
  have first := relative.notRooted '/'
  rw [spelled, show '/' :: rest = ['/'] ++ rest from rfl,
    clean_append (by simp [isEdge]) (by decide)] at first
  exact absurd (first rfl) (by decide)

theorem resolve_of_isRelative (session : Session) {path : String} (relative : IsRelative path) :
    session.resolve path = (session.siteBase.join path).mapError ClientError.invalidUrl := by
  unfold resolve
  split
  case h_1 rest spelled => exact absurd spelled (slash_of_isRelative relative rest)
  case h_2 => cases session.siteBase.join path <;> rfl

theorem exists_below {controller base : Url} (web : controller.IsWeb)
    (scheme : base.scheme = controller.scheme) (authority : base.authority = controller.authority)
    {directory : List String} (place : base.path = .segments (directory ++ [""])) {path : String}
    (descends : Descends path) :
    ∃ url tail, (base.join path).mapError ClientError.invalidUrl = .ok url ∧
      url.scheme = controller.scheme ∧ url.authority = controller.authority ∧ tail ≠ [] ∧
      url.path = .segments (directory ++ tail) := by
  have special := isSpecial_of_isHttp web.http
  rw [← scheme] at special
  obtain ⟨url, tail, joined, sameScheme, sameAuthority, some, below⟩ :=
    join_below special place descends
  refine ⟨url, tail, ?_, sameScheme.trans scheme, sameAuthority.trans authority, some, below⟩
  rw [joined]
  rfl

/-- With a site that is one segment, every path that descends leads below the place of the site, or
below the root if it comes after a slash. An address or an id without slashes descends from where
devices are. -/
theorem resolve_stays {controller : Url} (web : controller.IsWeb) {site : String}
    (named : site ≠ "") (segment : IsSegment site) :
    ∃ session, open? controller site = .ok session ∧
      (∀ path, Descends path → ∃ url tail, session.resolve path = .ok url ∧
        url.scheme = controller.scheme ∧ url.authority = controller.authority ∧ tail ≠ [] ∧
        url.path = .segments
          (controller.scope ++ ["api", "s", String.ofList (segmentOf site)] ++ tail)) ∧
      (∀ path, Descends path → ∃ url tail, session.resolve ("/" ++ path) = .ok url ∧
        url.scheme = controller.scheme ∧ url.authority = controller.authority ∧ tail ≠ [] ∧
        url.path = .segments (controller.scope ++ tail)) ∧
      ∀ text : String, (∀ c ∈ text.toList, isSlash true c = false) →
        Descends (Client.devicesPath ++ "/" ++ text) ∧
          Descends (Client.deviceRecordsPath ++ "/" ++ text) := by
  obtain ⟨session, opened, root, scheme, authority, place⟩ := open?_of_isSegment web named segment
  refine ⟨session, opened, ?site, ?controller, ?devices⟩
  case site =>
    intro path descends
    rw [resolve_of_isRelative session descends.toIsRelative]
    exact exists_below web scheme authority place descends
  case controller =>
    intro path descends
    rw [resolve_slash, root]
    exact exists_below web controller.withTrailingSlash_scheme
      controller.withTrailingSlash_authority web.root_path descends
  case devices =>
    intro text whole
    have stat : IsWord ['s', 't', 'a', 't'] := by decide
    have device : IsWord ['d', 'e', 'v', 'i', 'c', 'e'] := by decide
    have rest : IsWord ['r', 'e', 's', 't'] := by decide
    refine ⟨stat.descends device ?_ whole, rest.descends device ?_ whole⟩
    · simp [Client.devicesPath]
    · simp [Client.deviceRecordsPath]

def console : Url := ⟨"https", some ⟨"", none, .domain "console.local", none⟩,
  .segments ["proxy", "network"], none, none⟩

theorem resolve_stays_sample : ∃ session, open? console "a b" = .ok session ∧
    ∃ url tail, session.resolve (Client.devicesPath ++ "/" ++ "..") = .ok url ∧ tail ≠ [] ∧
      url.path = .segments (["proxy", "network", "api", "s", "a%20b"] ++ tail) := by
  have segment : IsSegment "a b" := ⟨by simp [isSlash], by decide, by decide⟩
  obtain ⟨session, opened, site, -, devices⟩ :=
    @resolve_stays console ⟨rfl, _, rfl⟩ "a b" (by decide) segment
  obtain ⟨url, tail, resolved, -, -, some, path⟩ := site _ (devices ".." (by simp [isSlash])).1
  have place : String.ofList (segmentOf "a b") = "a%20b" := by decide +kernel
  rw [place] at path
  exact ⟨session, opened, url, tail, resolved, some, path⟩

/-- A site of dots is accepted, and the paths of such a site lead out of it. So does an address with
enough slashes in any site. -/
theorem resolve_leaves :
    (open? console "..").toOption.map (fun session =>
        (session.resolve "list/alarm").toOption.map Url.text) =
      some (some "https://console.local/proxy/network/api/list/alarm") ∧
    (open? console "default").toOption.map (fun session =>
        (session.resolve (Client.devicesPath ++ "/" ++ "../../../../../../../x")).toOption.map Url.text) =
      some (some "https://console.local/x") := by decide +kernel

end Session

end NetConsole
