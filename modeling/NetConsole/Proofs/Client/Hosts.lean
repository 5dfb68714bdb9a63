import NetConsole.Proofs.Client.Sendable

/-!
# Web addresses have hosts

A web address that is read has a host, and one that is followed from an address with a host has one
as well. So a request can be sent to any web address that its path leads to, whatever user it names.
-/

set_option autoImplicit false

namespace NetConsole

open Stepwise Url

/-! ## Hosts -/

namespace Url

theorem specialHost_ne_empty {cs : List Char} {host : Host} (read : specialHost cs = .ok host) :
    host ≠ .domain "" := by
  unfold specialHost at read
  split at read
  case h_1 rest =>
    unfold bracketed at read
    split at read
    · obtain ⟨pieces, -, rfl⟩ := map_eq_ok read
      exact nofun
    · cases read
  case h_2 =>
    split at read
    · cases read
    · split at read
      · cases read
      · cases read
      · next name named _ =>
          split at read
          · obtain ⟨address, -, rfl⟩ := map_eq_ok read
            exact nofun
          · cases read
            rintro ⟨⟩
            exact named rfl

/-- What comes after a check that was passed. -/
theorem eq_ok_of_unless {ε α : Type} {check : Prop} [Decidable check] {cause : ε}
    {late : PUnit → Except ε α} {next : Except ε α} {value : α}
    (passed : (if check then (throw cause : Except ε PUnit) >>= late else next) = .ok value) :
    next = .ok value := by
  by_cases fails : check
  · rw [if_pos fails] at passed
    cases passed
  · rw [if_neg fails] at passed
    exact passed

theorem host_of_readAuthority {scheme : String} (special : isSpecial scheme = true) {cs : List Char}
    {followed : Bool} {authority : Authority}
    (read : readAuthority scheme cs followed = .ok authority) : authority.host ≠ .domain "" := by
  unfold readAuthority at read
  dsimp only at read
  rw [special] at read
  obtain ⟨host, named, rest⟩ := bind_eq_ok.mp (eq_ok_of_unless (eq_ok_of_unless read))
  obtain ⟨port, -, rest⟩ := bind_eq_ok.mp (eq_ok_of_unless rest)
  cases eq_ok_of_unless rest
  exact specialHost_ne_empty named

/-- What is read after two slashes has the authority that is read there. -/
theorem exists_authority {scheme : String} {cs : List Char} {url : Url}
    (read : readAfterSlashes scheme cs = .ok url) :
    ∃ part followed authority, readAuthority scheme part followed = .ok authority ∧
      url.scheme = scheme ∧ url.authority = some authority := by
  unfold readAfterSlashes at read
  dsimp only at read
  obtain ⟨authority, named, read⟩ := bind_eq_ok.mp read
  refine ⟨_, _, authority, named, ?_⟩
  split at read
  case h_1 =>
    split at read
    case isTrue =>
      cases read
      exact ⟨rfl, rfl⟩
    case isFalse =>
      by_cases special : isSpecial scheme = true
      · rw [if_pos special] at read
        cases read
        exact ⟨rfl, rfl⟩
      · rw [if_neg special] at read
        cases read
        exact ⟨rfl, rfl⟩
  case h_2 =>
    cases read
    exact ⟨rfl, rfl⟩

theorem hasHost_of_readAfterSlashes {scheme : String} (special : isSpecial scheme = true)
    {cs : List Char} {url : Url} (read : readAfterSlashes scheme cs = .ok url) :
    Client.hasHost url = true := by
  obtain ⟨part, followed, authority, named, -, place⟩ := exists_authority read
  rw [Client.hasHost, place]
  exact bne_iff_ne.mpr (host_of_readAuthority special named)

theorem readFile_scheme {cs : List Char} {url : Url} (read : readFile cs = .ok url) :
    url.scheme = "file" := by
  unfold readFile at read
  dsimp only at read
  split at read
  case h_1 =>
    split at read
    case isTrue =>
      split at read
      · cases read
        rfl
      · obtain ⟨host, -, read⟩ := bind_eq_ok.mp read
        cases read
        rfl
    case isFalse =>
      split at read
      · cases read
        rfl
      · cases read
        rfl
  all_goals
    cases read
    rfl

theorem readPlain_scheme {scheme : String} {cs : List Char} {url : Url}
    (read : readPlain scheme cs = .ok url) : url.scheme = scheme := by
  unfold readPlain at read
  split at read
  case h_1 =>
    obtain ⟨_, _, _, -, same, -⟩ := exists_authority read
    exact same
  all_goals
    cases read
    rfl

theorem hasHost_of_readAbsolute {scheme : String} {cs : List Char} {url : Url}
    (read : readAbsolute scheme cs = .ok url) (http : url.isHttp = true) :
    Client.hasHost url = true := by
  have special : isSpecial url.scheme = true := isSpecial_of_isHttp http
  unfold readAbsolute at read
  split at read
  case isTrue =>
    rw [isHttp, readFile_scheme read] at http
    cases http
  case isFalse =>
    split at read
    case isTrue special => exact hasHost_of_readAfterSlashes special read
    case isFalse plain =>
      rw [readPlain_scheme read] at special
      exact absurd special plain

theorem hasHost_of_readRelative {base : Url} (special : isSpecial base.scheme = true)
    (housed : Client.hasHost base = true) {cs : List Char} {url : Url}
    (read : readRelative base cs = .ok url) : Client.hasHost url = true := by
  unfold readRelative at read
  dsimp only at read
  split at read
  case h_4 =>
    split at read
    case isTrue =>
      split at read
      case h_1 =>
        split at read
        case isTrue =>
          split at read
          · exact hasHost_of_readAfterSlashes special read
          · exact hasHost_of_readAfterSlashes special read
        case isFalse =>
          cases read
          exact housed
      case h_2 =>
        cases read
        exact housed
    case isFalse =>
      cases read
      exact housed
  all_goals
    cases read
    exact housed

/-- A web address that is read relative to one with a host has a host. -/
theorem hasHost_of_join {base : Url} (special : isSpecial base.scheme = true)
    (housed : Client.hasHost base = true) {text : String} {url : Url}
    (joined : base.join text = .ok url) (http : url.isHttp = true) : Client.hasHost url = true := by
  unfold join at joined
  dsimp only at joined
  split at joined
  case h_1 =>
    split at joined
    case isTrue => exact hasHost_of_readRelative special housed joined
    case isFalse => exact hasHost_of_readAbsolute joined http
  case h_2 =>
    split at joined
    case h_2 => cases joined
    all_goals exact hasHost_of_readRelative special housed joined

end Url

theorem Session.hasHost_of_resolve {session : Session}
    (root : isSpecial session.root.scheme = true ∧ Client.hasHost session.root = true)
    (siteBase : isSpecial session.siteBase.scheme = true ∧ Client.hasHost session.siteBase = true)
    {path : String} {url : Url} (resolved : session.resolve path = .ok url)
    (http : url.isHttp = true) : Client.hasHost url = true := by
  unfold Session.resolve at resolved
  dsimp only at resolved
  split at resolved
  case h_2 => cases resolved
  case h_1 found joined =>
    cases resolved
    split at joined
    · exact hasHost_of_join root.1 root.2 joined http
    · exact hasHost_of_join siteBase.1 siteBase.2 joined http

/-! ## Users -/

theorem isHeaderValue_base64 (bytes : List UInt8) :
    isHeaderValue (String.ofList (Text.base64 bytes)) = true := by
  have letter (n : Nat) : 0x20 ≤ (Text.base64Char n).toNat ∧ (Text.base64Char n).toNat ≠ 0x7F := by
    have small : ∀ n < 62, 0x20 ≤ (Text.base64Char n).toNat ∧ (Text.base64Char n).toNat ≠ 0x7F := by
      decide
    by_cases few : n < 62
    · exact small n few
    · rw [Text.base64Char, if_neg (by omega), if_neg (by omega), if_neg few]
      split <;> decide
  have visible : ∀ c ∈ Text.base64 bytes, 0x20 ≤ c.toNat ∧ c.toNat ≠ 0x7F := by
    induction bytes using Text.base64.induct with
    | case1 => exact fun _ member => absurd member List.not_mem_nil
    | case2 | case3 => simp [Text.base64, letter]
    | case4 a b c rest ih => simpa [Text.base64, letter] using ih
  simp only [isHeaderValue, String.toList_ofList, List.all_eq_true, Bool.or_eq_true,
    Bool.and_eq_true, decide_eq_true_eq]
  exact fun c member => .inr (visible c member)

theorem isHeaderValue_basicAuthorization {url : Url} {value : String}
    (names : basicAuthorization url = some value) : isHeaderValue value = true := by
  unfold basicAuthorization at names
  obtain ⟨authority, -, names⟩ := Option.bind_eq_some_iff.mp names
  obtain ⟨user, -, names⟩ := Option.bind_eq_some_iff.mp names
  dsimp only at names
  split at names
  · cases names
  · cases names
    rw [isHeaderValue_append, isHeaderValue_base64]
    decide

end NetConsole
