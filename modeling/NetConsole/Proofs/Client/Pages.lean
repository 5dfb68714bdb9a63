import NetConsole.Proofs.Client.Akin
import NetConsole.Proofs.Client.Answers

/-!
# Lists and the records in them

A list asks for the page that is wanted, in one request at most, and gives all records of its answer
or says why there are none. A lookup by number gives the first record that the list would give on
the same answer, and fails as the list would.
-/

set_option autoImplicit false

namespace NetConsole

open Url Stepwise Operation

/-! ## Queries -/

/-- What a page asks for in the query of a URL: its numbers by name, without those that are zero. -/
def Paging.query? : Paging → Option String
  | ⟨0, 0⟩ => none
  | ⟨page, 0⟩ => some ("page=" ++ toString page)
  | ⟨0, perPage⟩ => some ("per_page=" ++ toString perPage)
  | ⟨page, perPage⟩ => some ("page=" ++ toString page ++ "&per_page=" ++ toString perPage)

namespace Url

theorem formByte_digit {c : Char} (digit : c.isDigit = true) :
    (String.utf8EncodeChar c).flatMap formByte = [c] := by
  have range : 48 ≤ c.toNat ∧ c.toNat ≤ 57 := by
    simpa [Char.isDigit, UInt32.le_iff_toNat_le] using digit
  have ascii : c.val.toNat ≤ 0x7F := le_trans range.2 (by decide)
  have encoded : String.utf8EncodeChar c = [UInt8.ofNat c.toNat] := by
    unfold String.utf8EncodeChar
    exact if_pos ascii
  have byte : (UInt8.ofNat c.toNat).toNat = c.toNat := by
    rw [UInt8.toNat_ofNat', Nat.mod_eq_of_lt (by omega)]
  rw [encoded, List.flatMap_singleton, formByte, byte]
  simp [range]

/-- A number stands for itself in a query. -/
theorem formText_toString (n : Nat) : formText (toString n) = (toString n).toList := by
  have digits : ∀ c ∈ (toString n).toList, c.isDigit = true := by
    intro c member
    rw [Nat.toString_eq_repr, Nat.toList_repr] at member
    exact Nat.isDigit_of_mem_toDigits (by decide) (by decide) member
  unfold formText Text.bytes Text.utf8
  generalize (toString n).toList = cs at digits ⊢
  induction cs with
  | nil => rfl
  | cons c rest ih =>
      rw [List.flatMap_cons, List.flatMap_append, formByte_digit (digits c List.mem_cons_self),
        ih fun other member => digits other (List.mem_cons_of_mem c member)]
      rfl

theorem formPair_number {key : String} (plain : formText key = key.toList) (n : Nat) :
    formPair (key, toString n) = (key ++ "=").toList ++ (toString n).toList := by
  rw [formPair, plain, formText_toString]
  simp

theorem query_appendPairs {url : Url} (bare : url.query = none) {pairs : List (String × String)}
    (some : pairs ≠ []) :
    (url.appendPairs pairs).query = .some (String.ofList (formPairs pairs)) := by
  rw [appendPairs, if_neg some, bare]

/-- The pairs of a page are what it asks for in the query. -/
theorem query_appendPage {url : Url} (bare : url.query = none) (paging : Option Paging) :
    (url.appendPairs (Paging.pairs? paging)).query = paging.bind Paging.query? := by
  have page (n : Nat) : formPair ("page", n.repr) = "page=".toList ++ n.repr.toList :=
    formPair_number (by decide) n
  have perPage (n : Nat) : formPair ("per_page", n.repr) = "per_page=".toList ++ n.repr.toList :=
    formPair_number (by decide) n
  cases paging with
  | none => exact bare
  | some paging =>
      obtain ⟨_ | n, _ | m⟩ := paging
      · exact bare
      all_goals
        rw [query_appendPairs bare (by simp [Paging.pairs?, Paging.pairs])]
        apply congrArg some
        apply String.toList_inj.mp
        simp [Paging.pairs?, Paging.pairs, formPairs, page, perPage]

theorem mem_of_mem_clean {c : Char} {cs : List Char} (member : c ∈ clean cs) : c ∈ cs := by
  have trimmed := List.mem_reverse.mp (List.mem_filter.mp member).1
  exact (List.dropWhile_sublist _).mem (List.mem_reverse.mp ((List.dropWhile_sublist _).mem trimmed))

end Url

theorem Session.query_of_resolve {session : Session} {path : String} (begins : BeginsWithWord path)
    (unmarked : ∀ c ∈ path.toList, c ≠ '?' ∧ c ≠ '#') {url : Url}
    (resolved : session.resolve path = .ok url) : url.query = none := by
  have whole : ∀ c ∈ clean (followed path), c ≠ '?' ∧ c ≠ '#' := by
    intro c member
    apply unmarked
    have inside := mem_of_mem_clean member
    unfold followed at inside
    split at inside
    · exact List.mem_of_mem_tail inside
    · exact inside
  rw [resolve_begins session begins] at resolved
  split at resolved
  case h_1 =>
    cases resolved
    simp only [withPath, spanPath_unmarked whole, splitTail]
  case h_2 => cases resolved

namespace Client

variable {α : Type} [Record α] {path : String} {client : Client}

theorem query_stripUser (url : Url) : (stripUser url).query = url.query := by
  unfold stripUser
  split <;> rfl

theorem unmarked_resource (resource : path ∈ resourcePaths) :
    ∀ c ∈ path.toList, c ≠ '?' ∧ c ≠ '#' := by
  have all : ∀ path ∈ resourcePaths, path.toList.all (fun c => c ≠ '?' ∧ c ≠ '#') = true := by
    decide
  intro c member
  simpa using List.all_eq_true.mp (all path resource) c member

/-- What a list of the records at a path comes to: one request at most, for the page that is wanted,
and all records of its answer or the reason why there are none. -/
structure Lists (α : Type) [Record α] (path : String) (paging : Option Paging) (client : Client) :
    Prop where
  sent : ((list α path paging).run client).2.wire.sent = client.wire.sent ∨
    ∃ sent : Sent, sent.method = .get ∧ sent.body = [] ∧
      sent.url.query = paging.bind Paging.query? ∧
      ((list α path paging).run client).2.wire.sent = client.wire.sent ++ [sent]
  /-- It succeeds exactly with the data of a whole answer of success that no verdict refuses, -/
  ok : ∀ records : List α, ((list α path paging).run client).1 = .ok records ↔
    client.isLoggedIn = true ∧ ∃ url answer, client.Hears (listRequest path paging) url answer ∧
      ∃ envelope : Envelope α, answer.Holds envelope ∧ envelope.Accepts ∧ records = envelope.data
  /-- which are all that the answer has, each read from its own item, in the same order. -/
  whole : ∀ records : List α, ((list α path paging).run client).1 = .ok records →
    ∃ url answer, client.Hears (listRequest path paging) url answer ∧
      List.Forall₂ ReadFrom answer.tree.enclosed records
  /-- A verdict that refuses such an answer makes it a rejection, -/
  rejected : ∀ message, ((list α path paging).run client).1 = .error (.rejected message) ↔
    ∃ url answer, client.Hears (listRequest path paging) url answer ∧
      ∃ envelope : Envelope α, answer.Holds envelope ∧ ∃ verdict, envelope.verdict = some verdict ∧
        ¬ verdict.Passes ∧ message = verdict.message.getD ("rc=" ++ verdict.code)
  /-- and any other status a refusal. -/
  refused : ∀ refusal, ((list α path paging).run client).1 = .error (.refused refusal) ↔
    ∃ url answer, client.Hears (listRequest path paging) url answer ∧
      answer.succeeded = false ∧ refusal = refusalOf (listRequest path paging) url answer

theorem lists (resource : path ∈ resourcePaths) (paging : Option Paging) (client : Client) :
    Lists α path paging client where
  sent := by
    rw [run_list]
    rcases exchange_sent (listRequest path paging) client with nothing | ⟨url, sent, prepared, out⟩
    · exact .inl nothing
    · right
      obtain ⟨-, resolved, goes⟩ := prepare_eq_ok prepared
      have words := outgoing_words resolved goes
      obtain ⟨place, found, full⟩ := words.url
      have bare := Session.query_of_resolve (begins_resource resource) (unmarked_resource resource) found
      refine ⟨sent, words.method, words.body, ?_, out⟩
      rw [full, query_stripUser]
      exact query_appendPage bare paging
  ok := by
    intro records
    rw [list_ok_iff]
    simp only [listing_ok_iff]
    refine ⟨fun made => ⟨?_, made⟩, fun made => made.2⟩
    obtain ⟨url, answer, hears, -⟩ := made
    exact hears.held rfl
  whole := by
    intro records ok
    obtain ⟨url, answer, hears, made⟩ := list_ok_iff.mp ok
    obtain ⟨envelope, holds, -, rfl⟩ := listing_ok_iff.mp made
    exact ⟨url, answer, hears, holds.forall₂_data⟩
  rejected := by
    intro message
    rw [list_error_iff id]
    simp only [listing_rejected_iff, Envelope.accepted_error_iff]
  refused := by
    intro refusal
    rw [list_error_iff id]
    simp only [listing_refused_iff]

/-! ## Lookups -/

/-- The first of the records that were listed. -/
def firstOf (resource identifier : String) : List α → Except ClientError α
  | record :: _ => .ok record
  | [] => .error (.notFound resource identifier)

theorem run_first (resource path identifier : String) (client : Client) :
    (first α resource path identifier).run client =
      (((list α path none).run client).1 >>= firstOf resource identifier,
        ((list α path none).run client).2) := by
  apply run_judging
  intro records client
  cases records <;> rfl

theorem run_lookup {id : Int} (counts : 1 ≤ id) (resource path : String) (client : Client) :
    (lookup α resource path id).run client =
      (((list α (path ++ "/" ++ toString id) none).run client).1 >>= firstOf resource (toString id),
        ((list α (path ++ "/" ++ toString id) none).run client).2) := by
  rw [lookup, if_neg (by omega)]
  exact run_first resource _ _ client

/-- Two requests for lists make the same of the same answer, but for the places that they name. -/
theorem akin_listing {first second : Request} (method : first.method = second.method)
    (url place : Url) (answer : Answer) :
    Akin (· = ·) (listing α first (url, answer)) (listing α second (place, answer)) := by
  have judging : Akin (· = ·) (judged first (url, answer)) (judged second (place, answer)) := by
    unfold judged
    split
    case isTrue => exact .ok rfl
    case isFalse =>
      apply Akin.error
      intro place
      simp only [ClientError.placedAt, refusalOf, method]
  apply judging.bind
  rintro answer _ rfl
  exact .refl _

/-- Lists of which one is of records below the path of the other have the same records of the same
answer, or fail alike. -/
theorem akin_list (byOrigin : client.wire.ByOrigin) (resource : path ∈ resourcePaths)
    (paging : Option Paging) (more : String) :
    Akin (· = ·) ((list α path paging).run client).1
      ((list α (path ++ "/" ++ more) none).run client).1 := by
  have begins := begins_resource resource
  have alike : (listRequest path paging).Alike client.session
      (listRequest (path ++ "/" ++ more) none) :=
    ⟨rfl, rfl, rfl, ⟨begins, (begins.append "/").append more⟩, (Session.base_below _ begins more).symm⟩
  rw [run_list, run_list]
  apply (akin_exchange byOrigin alike).bind
  rintro ⟨url, answer⟩ ⟨place, _⟩ rfl
  exact akin_listing rfl url place answer

theorem list_ne_notFound (paging : Option Paging) (kind identifier : String) :
    ((list α path paging).run client).1 ≠ .error (.notFound kind identifier) := by
  intro failed
  obtain ⟨url, answer, -, made⟩ := (list_error_iff id).mp failed
  rcases listing_cases α (listRequest path paging) url answer with ⟨envelope, -, same⟩ |
    ⟨-, cause, same, unlisted⟩
  · rw [made] at same
    cases accepted : envelope.accepted <;> simp_all [Except.mapError]
  · rw [made] at same
    cases same
    cases unlisted

/-- What a lookup of the record with a number comes to, next to the list that it is in. -/
structure Looks (α : Type) [Record α] (kind path : String) (paging : Option Paging) (id : Int)
    (client : Client) : Prop where
  /-- It gives the first record of those that the list would have, -/
  found : ∀ record : α, ((lookup α kind path id).run client).1 = .ok record ↔
    ∃ rest, ((list α path paging).run client).1 = .ok (record :: rest)
  /-- finds nothing where the list would have nothing, -/
  missing : ((lookup α kind path id).run client).1 = .error (.notFound kind (toString id)) ↔
    ((list α path paging).run client).1 = .ok []
  /-- and fails as the list would. -/
  fails : ∀ cause, ((list α path paging).run client).1 = .error cause →
    ∃ other, ((lookup α kind path id).run client).1 = .error other ∧
      ∀ place, cause.placedAt place = other.placedAt place

theorem looks (byOrigin : client.wire.ByOrigin) (resource : path ∈ resourcePaths)
    (paging : Option Paging) (kind : String) {id : Int} (counts : 1 ≤ id) :
    Looks α kind path paging id client := by
  have looked : ((lookup α kind path id).run client).1 =
      ((list α (path ++ "/" ++ toString id) none).run client).1 >>= firstOf kind (toString id) :=
    congrArg Prod.fst (run_lookup counts kind path client)
  have akin : Akin (· = ·) ((list α path paging).run client).1
      ((list α (path ++ "/" ++ toString id) none).run client).1 :=
    akin_list byOrigin resource paging (toString id)
  have never : ((list α path paging).run client).1 ≠ .error (.notFound kind (toString id)) :=
    list_ne_notFound paging kind (toString id)
  constructor
  all_goals
    rw [looked]
    generalize ((list α path paging).run client).1 = listed at akin never ⊢
    generalize ((list α (path ++ "/" ++ toString id) none).run client).1 = below at akin ⊢
  case found =>
    intro record
    cases akin with
    | @ok records _ same =>
        subst same
        cases records <;> simp [bind, Except.bind, firstOf]
    | error same => simp [bind, Except.bind]
  case missing =>
    cases akin with
    | @ok records _ same =>
        subst same
        cases records <;> simp [bind, Except.bind, firstOf]
    | @error cause other same =>
        constructor
        · intro missing
          cases missing
          exact absurd (congrArg Except.error (ClientError.eq_notFound (same default))) never
        · intro impossible
          cases impossible
  case fails =>
    intro cause failed
    cases akin with
    | ok => cases failed
    | error same =>
        cases failed
        exact ⟨_, rfl, same⟩

/-- A list gives all records of its answer or says why there are none, and a lookup by number agrees
with it. A number below one is refused before anything is sent. -/
theorem lists_and_lookups (α : Type) [Record α] {path : String} (resource : path ∈ resourcePaths)
    (paging : Option Paging) (client : Client) :
    Lists α path paging client ∧
      (∀ kind id, id < 1 → (lookup α kind path id).run client =
        (.error (.invalidArgument "id" "cannot be less than 1"), client)) ∧
      (client.wire.ByOrigin → ∀ kind id, 1 ≤ id → Looks α kind path paging id client) := by
  refine ⟨lists resource paging client, ?_, ?_⟩
  · intro kind id small
    rw [lookup, if_pos small]
    rfl
  · intro byOrigin kind id counts
    exact looks byOrigin resource paging kind counts

/-- A client that holds a session token, with replies to come. -/
def holder (replies : List Reply) : Client where
  session := ⟨Session.console, { Session.console with path := .segments ["api", "s", "default", ""] },
    "default", "agent"⟩
  tokens := ⟨some "abc123", none⟩
  wire := { reaches := fun _ => true, replies, sent := [] }

/-- Two alarms, and a verdict that lets them through. -/
def twoAlarms : String :=
  "\x7b\"data\":[\x7b\"_id\":\"a\"\x7d,\x7b\"_id\":\"b\"\x7d],\"meta\":\x7b\"rc\":\"ok\"\x7d\x7d"

theorem lists_and_lookups_sample :
    let client := holder [.answer ⟨200, [], Text.bytes twoAlarms, true, []⟩]
    ∃ one two : Alarm, ((list Alarm alarmsPath (some ⟨2, 0⟩)).run client).1 = .ok [one, two] ∧
      one.id = "a" ∧ ((lookup Alarm "alarm" alarmsPath 7).run client).1 = .ok one ∧
      (lookup Alarm "alarm" alarmsPath 0).run client =
        (.error (.invalidArgument "id" "cannot be less than 1"), client) := by
  intro client
  have read : ((list Alarm alarmsPath (some ⟨2, 0⟩)).run client).1.toOption.map
      (List.map Alarm.id) = some ["a", "b"] := by decide +kernel
  obtain ⟨-, small, counts⟩ :=
    @lists_and_lookups Alarm _ alarmsPath (by decide) (some ⟨2, 0⟩) client
  have looks := counts (fun _ _ _ => rfl) "alarm" 7 (by decide)
  cases listed : ((list Alarm alarmsPath (some ⟨2, 0⟩)).run client).1 with
  | error cause =>
      rw [listed] at read
      cases read
  | ok records =>
      rw [listed] at read
      have ids : records.map Alarm.id = ["a", "b"] := Option.some.inj read
      obtain ⟨one, two, rfl⟩ : ∃ one two, records = [one, two] :=
        List.length_eq_two.mp (by simpa using congrArg List.length ids)
      exact ⟨one, two, rfl, (List.cons.inj ids).1, (looks.found one).mpr ⟨[two], listed⟩,
        small "alarm" 0 (by decide)⟩

end Client

end NetConsole
