import NetConsole.Client.Resources
import NetConsole.Proofs.Client.Operation
import NetConsole.Proofs.Records.Documents

/-!
# Where listed records come from

A record that is listed was read from an answer that was waiting on the wire. Two levels of the
answer are around it, the envelope and the list, just as two levels of a collection file are around
a document; so a record that can be listed can be kept.
-/

set_option autoImplicit false

namespace NetConsole

open Json Stepwise

/-! ## Answers with integers only -/

/-- All numbers that a reader finds in a text are integers that fit a word. -/
def Json.IsIntegralText (text : String) : Prop := (Document.ofChars text.toList).root.IsIntegral

instance (text : String) : Decidable (IsIntegralText text) :=
  inferInstanceAs (Decidable (Tree.IsIntegral _))

/-- All numbers in the body of an answer are integers that fit a word. -/
def Answer.IsIntegral (answer : Answer) : Prop := IsIntegralText (Text.lossyText answer.body)

instance (answer : Answer) : Decidable answer.IsIntegral :=
  inferInstanceAs (Decidable (IsIntegralText _))

/-- A reply brings integers only, if it is an answer. -/
def Reply.IsIntegral : Reply → Prop
  | .answer brought => brought.IsIntegral
  | .dropped | .silent => True

instance (reply : Reply) : Decidable reply.IsIntegral :=
  match reply with
  | .answer brought => inferInstanceAs (Decidable brought.IsIntegral)
  | .dropped | .silent => .isTrue trivial

/-- All answers to come have integers only. -/
def Wire.IsIntegral (wire : Wire) : Prop := ∀ reply ∈ wire.replies, reply.IsIntegral

instance (wire : Wire) : Decidable wire.IsIntegral :=
  inferInstanceAs (Decidable (∀ reply ∈ wire.replies, reply.IsIntegral))

theorem Answer.IsIntegral.arriving {answer : Answer} (integral : answer.IsIntegral)
    (method : Method) : (Wire.arriving method answer).IsIntegral := by
  unfold Wire.arriving
  split
  case isTrue => exact trivial
  case isFalse => exact integral

theorem Wire.IsIntegral.transmit {wire : Wire} (integral : wire.IsIntegral) (sent : Sent) :
    (wire.transmit sent).2.IsIntegral ∧
      ∀ answer, (wire.transmit sent).1 = .answer answer → answer.IsIntegral := by
  unfold Wire.transmit
  split
  case isTrue => exact ⟨integral, fun _ same => by cases same⟩
  case isFalse =>
    have left : ∀ reply ∈ wire.replies.drop 1, reply.IsIntegral :=
      fun reply member => integral reply (List.mem_of_mem_drop member)
    dsimp only
    cases waiting : wire.replies with
    | nil =>
        exact ⟨fun _ member => absurd member List.not_mem_nil, fun _ same => by cases same⟩
    | cons reply rest =>
        rw [waiting] at left
        cases reply with
        | dropped | silent => exact ⟨left, fun _ same => by cases same⟩
        | answer answer =>
            refine ⟨left, ?_⟩
            intro _ same
            cases same
            have here : Reply.IsIntegral (.answer answer) := by
              apply integral
              rw [waiting]
              exact List.mem_cons_self
            exact Answer.IsIntegral.arriving here sent.method

/-! ## Operations on such answers -/

namespace Operation

variable {α β : Type}

/-- Where all answers have integers only, whatever an operation returns is good, and the answers
that are left still have integers only. -/
def Yields (good : α → Prop) (op : Operation α) : Prop :=
  ∀ before : Client, before.wire.IsIntegral →
    (op.run before).2.wire.IsIntegral ∧ ∀ value, (op.run before).1 = .ok value → good value

theorem yields_pure {good : α → Prop} {value : α} (holds : good value) :
    Yields good (pure value : Operation α) := by
  intro before integral
  refine ⟨integral, ?_⟩
  intro _ same
  cases same
  exact holds

theorem yields_throw (good : α → Prop) (cause : ClientError) :
    Yields good (throw cause : Operation α) :=
  fun _ integral => ⟨integral, fun _ same => by cases same⟩

theorem yields_liftM {good : α → Prop} {result : Except ClientError α}
    (holds : ∀ value, result = .ok value → good value) :
    Yields good (liftM result : Operation α) :=
  fun _ integral => ⟨integral, holds⟩

theorem Yields.bind {good : α → Prop} {better : β → Prop} {op : Operation α}
    {next : α → Operation β} (one : Yields good op)
    (two : ∀ value, good value → Yields better (next value)) : Yields better (op >>= next) := by
  intro before integral
  obtain ⟨left, holds⟩ := one before integral
  rcases ran : op.run before with ⟨result, between⟩
  rw [ran] at left holds
  cases result with
  | error cause =>
      rw [run_bind_error ran]
      exact ⟨left, fun _ same => by cases same⟩
  | ok value =>
      rw [run_bind_ok ran]
      exact two value (holds value rfl) between left

end Operation

namespace Client

open Operation

variable {α : Type} [Record α]

theorem yields_exchange (request : Request) :
    Yields (fun pair => pair.2.IsIntegral) (exchange request) := by
  intro before integral
  rw [run_exchange]
  cases prepare before.session before.tokens request with
  | error cause => exact ⟨integral, fun _ same => by cases same⟩
  | ok pair =>
      obtain ⟨url, sent⟩ := pair
      obtain ⟨left, holds⟩ := integral.transmit sent
      dsimp only
      rcases ran : before.wire.transmit sent with ⟨delivery, wire⟩
      rw [ran] at left holds
      cases delivery with
      | answer answer =>
          refine ⟨left, fun pair same => ?_⟩
          cases same
          exact holds answer rfl
      | unreachable | dropped | timedOut => exact ⟨left, fun _ same => by cases same⟩

theorem yields_send (request : Request) : Yields Answer.IsIntegral (send request) := by
  refine (yields_exchange request).bind fun pair integral => ?_
  dsimp only
  split
  · exact yields_pure integral
  · exact yields_throw _ _

/-- A value of a shape that was read where all numbers are integers. -/
def Decoded (shape : Shape) (value : Json) : Prop :=
  ∃ tree : Tree, tree.IsIntegral ∧ readShape shape maxDepth tree = .ok value

theorem decodeBody_eq_ok {shape : Shape} {body : String} {value : Json}
    (integral : IsIntegralText body) (decoded : decodeBody shape body = .ok value) :
    Decoded shape value := by
  unfold decodeBody at decoded
  split at decoded
  case h_2 => cases decoded
  case h_1 read =>
    cases decoded
    refine ⟨_, ?_, parseAs_eq_ok read⟩
    by_cases blank : Text.isBlankText body = true
    · rw [if_pos blank]
      exact trivial
    · rw [if_neg blank]
      exact integral

theorem yields_executeShape (shape : Shape) (request : Request) :
    Yields (fun pair => Decoded shape pair.2) (executeShape shape request) := by
  refine (yields_send request).bind fun answer integral => ?_
  have decodes : Yields (Decoded shape) (liftM (decodeBody shape (Text.lossyText answer.body))) :=
    yields_liftM fun _ decoded => decodeBody_eq_ok integral decoded
  split
  · exact decodes.bind fun _ decoded => yields_pure decoded
  · exact yields_throw _ _

theorem yields_login (username password : String) :
    Yields (fun _ => True) (login username password) := by
  intro before integral
  obtain ⟨left, -⟩ := yields_executeShape loginShape (loginRequest username password)
    { before with tokens := .empty } integral
  rw [run_login]
  rcases ran : (executeShape loginShape (loginRequest username password)).run
    { before with tokens := .empty } with ⟨result, after⟩
  rw [ran] at left
  refine ⟨?_, fun _ _ => trivial⟩
  cases result with
  | error cause => exact left
  | ok pair =>
      dsimp only
      cases missingToken after.tokens with
      | none => exact left
      | some message => exact left

/-! ## Lists -/

/-- A record that was read, where all numbers are integers, two levels inside an answer. -/
def WasRead (record : α) : Prop :=
  ∃ (tree : Tree) (value : Json), tree.IsIntegral ∧
    readShape (Record.shape α) Store.documentRoom tree = .ok value ∧ record = Record.ofJson value

/-- The records of an envelope are read two levels inside it. -/
theorem wasRead_of_decoded {value : Json} (decoded : Decoded (Envelope.shape (Record.shape α)) value) :
    ∀ record ∈ (Envelope.ofJson value : Envelope α).data, WasRead record := by
  obtain ⟨tree, integral, read⟩ := decoded
  have distinct : ([Field.list "data" (Record.shape α), .optional "meta" Verdict.shape].map
      Field.key).Nodup := (by decide : ["data", "meta"].Nodup)
  obtain ⟨inner, members, rest, deep, rfl, fills, -, nothing⟩ := readShape_record distinct read
  obtain rfl : inner = maxDepth - 1 := Nat.succ.inj deep.symm
  cases nothing rfl
  obtain ⟨data, verdict, rfl⟩ := List.length_eq_two.mp fills.length_eq.symm
  obtain ⟨first, second, -⟩ : Field.Fills _ tree (.list "data" (Record.shape α)) data ∧
      Field.Fills _ tree (.optional "meta" Verdict.shape) verdict ∧ True := by
    simpa using fills
  obtain ⟨dataKey, items⟩ := data
  obtain ⟨verdictKey, verdict⟩ := verdict
  obtain rfl : dataKey = "data" := first.named
  obtain rfl : verdictKey = "meta" := second.named
  intro record member
  rcases first.origin with ⟨part, inside, listed⟩ | absent
  · obtain ⟨room, items, deeper, rfl, each⟩ := readShape_list listed
    obtain rfl : room = Store.documentRoom := Nat.succ.inj deeper.symm
    obtain ⟨item, there, rfl⟩ : ∃ item ∈ items, Record.ofJson item = record :=
      List.mem_map.mp member
    obtain ⟨source, innermost, taken⟩ := each item there
    exact ⟨source, item, (integral.parts part inside).parts source innermost, taken, rfl⟩
  · cases absent
    exact absurd member List.not_mem_nil

theorem yields_list (path : String) (paging : Option Paging) :
    Yields (fun records => ∀ record ∈ records, WasRead record) (list α path paging) := by
  refine (yields_executeShape _ _).bind fun pair decoded => ?_
  have origin : ∀ record ∈ (Envelope.ofJson pair.2 : Envelope α).data, WasRead record :=
    wasRead_of_decoded decoded
  unfold Envelope.accepted
  dsimp only
  cases (Envelope.ofJson pair.2 : Envelope α).verdict with
  | none => exact yields_pure origin
  | some verdict =>
      dsimp only
      by_cases refused : verdict.code ≠ "" ∧ !verdict.isOk
      · rw [if_pos refused]
        exact yields_throw _ _
      · rw [if_neg refused]
        exact yields_pure origin

end Client

end NetConsole
