import NetConsole.Proofs.Client.Origin

/-!
# Requests to one place

Whether a request goes out, and what comes of it, depends on its path only by where that leads to.
Two requests under the same session and tokens whose paths are followed from the same URL fare
alike: either both are answered, with the same answer, or both fail for causes that differ in no
more than the places they name.
-/

set_option autoImplicit false

namespace NetConsole

open Url

/-! ## Results that are akin -/

/-- The cause with one place for all that it names. -/
def ClientError.placedAt (place : Url) : ClientError → ClientError
  | .transport timedOut url => .transport timedOut (url.map fun _ => place)
  | .refused refusal => .refused { refusal with url := place }
  | cause => cause

theorem ClientError.eq_notFound {cause : ClientError} {place : Url} {kind identifier : String}
    (same : cause.placedAt place = .notFound kind identifier) : cause = .notFound kind identifier := by
  cases cause <;> simp_all [placedAt]

/-- Results with values that go together, or that fail for causes that are the same but for the
places that they name. -/
inductive Akin {α β : Type} (together : α → β → Prop) :
    Except ClientError α → Except ClientError β → Prop where
  | ok {one : α} {two : β} : together one two → Akin together (.ok one) (.ok two)
  | error {cause other : ClientError} : (∀ place, cause.placedAt place = other.placedAt place) →
      Akin together (.error cause) (.error other)

theorem Akin.refl {α : Type} (result : Except ClientError α) : Akin (· = ·) result result := by
  cases result with
  | ok value => exact .ok rfl
  | error cause => exact .error fun _ => rfl

theorem Akin.bind {α β γ δ : Type} {together : α → β → Prop} {after : γ → δ → Prop}
    {one : Except ClientError α} {two : Except ClientError β}
    {first : α → Except ClientError γ} {second : β → Except ClientError δ}
    (akin : Akin together one two)
    (next : ∀ left right, together left right → Akin after (first left) (second right)) :
    Akin after (one >>= first) (two >>= second) := by
  cases akin with
  | ok same => exact next _ _ same
  | error same => exact .error same

/-! ## Where paths lead -/

/-- URLs with the same scheme and the same authority. -/
structure Url.SamePlace (one two : Url) : Prop where
  scheme : one.scheme = two.scheme
  authority : one.authority = two.authority

namespace Url.SamePlace

variable {one two : Url}

theorem origin (same : one.SamePlace two) : one.SameOrigin two where
  scheme := same.scheme
  place := by rw [same.authority]

theorem hasHost (same : one.SamePlace two) : Client.hasHost one = Client.hasHost two := by
  rw [Client.hasHost, Client.hasHost, same.authority]

theorem basicAuthorization (same : one.SamePlace two) :
    NetConsole.basicAuthorization one = NetConsole.basicAuthorization two := by
  unfold NetConsole.basicAuthorization
  rw [same.authority]

end Url.SamePlace

namespace Url.SameOrigin

variable {one two three : Url}

theorem symm (same : one.SameOrigin two) : two.SameOrigin one :=
  ⟨same.scheme.symm, same.place.symm⟩

theorem trans (first : one.SameOrigin two) (second : two.SameOrigin three) :
    one.SameOrigin three :=
  ⟨first.scheme.trans second.scheme, first.place.trans second.place⟩

theorem isHttp (same : one.SameOrigin two) : one.isHttp = two.isHttp := by
  rw [Url.isHttp, Url.isHttp, same.scheme]

end Url.SameOrigin

namespace Session

/-- The URL that a path is followed from: the root after a slash, and else the place of the site. -/
def base (session : Session) (path : String) : Url :=
  if path.toList.head? = some '/' then session.root else session.siteBase

/-- The text that is followed from there. -/
def followed (path : String) : List Char :=
  if path.toList.head? = some '/' then path.toList.tail else path.toList

theorem resolve_begins (session : Session) {path : String} (begins : BeginsWithWord path) :
    session.resolve path = match (session.base path).path with
      | .segments list =>
          .ok (withPath (session.base path).scheme (session.base path).authority list.dropLast
            (clean (followed path)))
      | .rootless _ => .error (.invalidUrl .relativeToRootless) := by
  obtain ⟨word, rest, isWord, spelled | spelled⟩ := begins
  · have relative := isWord.isRelative spelled
    have unrooted : path.toList.head? ≠ some '/' := by
      intro rooted
      obtain ⟨rest, slash⟩ := List.head?_eq_some_iff.mp rooted
      exact slash_of_isRelative relative rest slash
    rw [resolve_of_isRelative session relative, isWord.join_eq spelled, base, followed,
      if_neg unrooted, if_neg unrooted]
    cases session.siteBase.path <;> rfl
  · have tail : (String.ofList (word ++ '/' :: rest)).toList = word ++ '/' :: rest :=
      String.toList_ofList
    have rooted : path.toList.head? = some '/' := by rw [spelled]; rfl
    have whole : path = "/" ++ String.ofList (word ++ '/' :: rest) := by
      apply String.toList_inj.mp
      rw [String.toList_append, tail]
      exact spelled
    rw [base, followed, if_pos rooted, if_pos rooted, spelled, List.tail_cons, whole, resolve_slash,
      isWord.join_eq tail, tail]
    cases session.root.path <;> rfl

theorem base_append (session : Session) {path : String} (begins : BeginsWithWord path)
    (more : String) : session.base (path ++ more) = session.base path := by
  have first : (path ++ more).toList.head? = path.toList.head? := by
    rw [String.toList_append]
    apply List.head?_append_of_ne_nil
    obtain ⟨word, rest, isWord, spelled | spelled⟩ := begins
    · rw [spelled]
      simp
    · rw [spelled]
      simp
  rw [base, base, first]

theorem base_below (session : Session) {path : String} (begins : BeginsWithWord path)
    (more : String) : session.base (path ++ "/" ++ more) = session.base path := by
  rw [base_append session (begins.append "/"), base_append session begins]

variable {session : Session}

theorem akin_resolve {path other : String} (begins : BeginsWithWord path)
    (others : BeginsWithWord other) (same : session.base path = session.base other) :
    Akin SamePlace (session.resolve path) (session.resolve other) := by
  rw [resolve_begins session begins, resolve_begins session others, same]
  cases (session.base other).path with
  | segments list => exact .ok ⟨rfl, rfl⟩
  | rootless text => exact .error fun _ => rfl

end Session

/-! ## What goes out -/

/-- Requests that differ in no more than their paths, which are followed from one URL, and in what
they ask for there. -/
structure Request.Alike (session : Session) (one two : Request) : Prop where
  method : one.method = two.method
  body : one.body.isSome = two.body.isSome
  anonymous : one.anonymous = two.anonymous
  begins : BeginsWithWord one.path ∧ BeginsWithWord two.path
  base : session.base one.path = session.base two.path

/-- What goes out under one method to one origin. -/
structure Sent.Alike (one two : Sent) : Prop where
  method : one.method = two.method
  url : one.url.SameOrigin two.url

/-- A connection depends on the scheme, the host and the port. -/
def Wire.ByOrigin (wire : Wire) : Prop :=
  ∀ one two : Url, one.SameOrigin two → wire.reaches one = wire.reaches two

theorem Wire.ByOrigin.delivery {wire : Wire} (byOrigin : wire.ByOrigin) {one two : Sent}
    (alike : one.Alike two) : (wire.transmit one).1 = (wire.transmit two).1 := by
  unfold transmit
  rw [byOrigin _ _ alike.url, alike.method]
  split
  · rfl
  · rcases wire.replies with _ | ⟨_ | _ | _, rest⟩ <;> rfl

namespace Client

variable {session : Session} {tokens : Tokens} {first second : Request}

section

variable {one two : Url}

theorem sameOrigin_full (same : one.SamePlace two) (pairs more : List (String × String)) :
    (stripUser (one.appendPairs pairs)).SameOrigin (stripUser (two.appendPairs more)) :=
  ((sameOrigin_stripUser _).trans (sameOrigin_appendPairs one pairs)).trans
    (same.origin.trans ((sameOrigin_stripUser _).trans (sameOrigin_appendPairs two more)).symm)

theorem headersOf_alike (same : one.SamePlace two)
    (bodies : first.body.isSome = second.body.isSome) :
    headersOf session tokens first one = headersOf session tokens second two := by
  unfold headersOf
  rw [same.basicAuthorization]
  cases hasFirst : first.body <;> cases hasSecond : second.body <;> simp_all

theorem akin_outgoing (same : one.SamePlace two) (method : first.method = second.method)
    (bodies : first.body.isSome = second.body.isSome) :
    Akin Sent.Alike (outgoing session tokens first one) (outgoing session tokens second two) := by
  have full := sameOrigin_full same first.query second.query
  unfold outgoing
  dsimp only
  rw [same.hasHost, headersOf_alike same bodies, full.isHttp]
  split
  case isTrue => exact .error fun _ => rfl
  case isFalse =>
    split
    case isTrue => exact .error fun _ => rfl
    case isFalse =>
      split
      case isTrue => exact .error fun _ => rfl
      case isFalse => exact .ok ⟨method, full⟩

end

theorem akin_prepare (alike : first.Alike session second) :
    Akin (fun one two => one.2.Alike two.2) (prepare session tokens first)
      (prepare session tokens second) := by
  refine (Session.akin_resolve alike.begins.1 alike.begins.2 alike.base).bind fun one two same => ?_
  rw [alike.anonymous]
  split
  case isTrue => exact .error fun _ => rfl
  case isFalse =>
    exact (akin_outgoing same alike.method alike.body).bind fun sent other goes => .ok goes

/-- Requests that are alike are answered with the same answer, or fail alike. -/
theorem akin_exchange {client : Client} (byOrigin : client.wire.ByOrigin)
    (alike : first.Alike client.session second) :
    Akin (fun one two => one.2 = two.2) ((exchange first).run client).1
      ((exchange second).run client).1 := by
  rw [run_exchange, run_exchange]
  have prepared := @akin_prepare client.session client.tokens _ _ alike
  generalize prepare client.session client.tokens first = one at prepared ⊢
  generalize prepare client.session client.tokens second = two at prepared ⊢
  cases prepared with
  | error same => exact .error same
  | @ok one two same =>
      have delivery := byOrigin.delivery same
      dsimp only
      rcases ran : client.wire.transmit one.2 with ⟨left, wire⟩
      rcases ran' : client.wire.transmit two.2 with ⟨right, wire'⟩
      rw [ran, ran'] at delivery
      obtain rfl : left = right := delivery
      cases left with
      | answer answer => exact .ok rfl
      | unreachable | dropped | timedOut => exact .error fun _ => rfl

end Client

end NetConsole
