import NetConsole.Client.Account
import NetConsole.Client.Orders
import NetConsole.Proofs.Stepwise

/-!
# Running operations

How the operations that are written by hand take a client to the next: the exchange of one request
and its answer, login and logout, and the request whose body is written as it comes.
-/

set_option autoImplicit false

namespace NetConsole

namespace Operation

open Stepwise

variable {α β : Type}

/-- An operation of which only how it ends is told. -/
def ending (op : Operation α) : Operation Unit := op >>= fun _ => pure ()

theorem run_ending (op : Operation α) (client : Client) :
    (ending op).run client = ((op.run client).1.map fun _ => (), (op.run client).2) := by
  rcases ran : op.run client with ⟨result, after⟩
  cases result with
  | ok value => rw [ending, run_bind_ok ran]; rfl
  | error cause => rw [ending, run_bind_error ran]; rfl

end Operation

namespace Client

open Stepwise Operation

/-- One request: it is prepared under the tokens held, put on the wire, and the cookies of its
answer are folded into the tokens. -/
theorem run_exchange (request : Request) (client : Client) :
    (exchange request).run client =
      match prepare client.session client.tokens request with
      | .error cause => (.error cause, client.trying request)
      | .ok (url, sent) =>
          match client.wire.transmit sent with
          | (.answer answer, wire) =>
              (.ok (url, answer),
                { client.trying request with wire, tokens := client.tokens.absorb answer.cookies })
          | (.timedOut, wire) =>
              (.error (.transport true (some sent.url)), { client.trying request with wire })
          | (.unreachable, wire) | (.dropped, wire) =>
              (.error (.transport false (some sent.url)), { client.trying request with wire }) := by
  simp only [exchange, run_bind, run_modify, run_get, run_liftM, trying]
  cases prepare client.session client.tokens request with
  | error cause => rfl
  | ok pair =>
      obtain ⟨url, sent⟩ := pair
      dsimp only
      rcases client.wire.transmit sent with ⟨outcome, wire⟩
      cases outcome <;> rfl

theorem wire_exchange (request : Request) (client : Client) :
    ((exchange request).run client).2.wire =
      match prepare client.session client.tokens request with
      | .error _ => client.wire
      | .ok (_, sent) => (client.wire.transmit sent).2 := by
  rw [run_exchange]
  cases prepare client.session client.tokens request with
  | error cause => rfl
  | ok pair =>
      obtain ⟨url, sent⟩ := pair
      dsimp only
      rcases client.wire.transmit sent with ⟨outcome, wire⟩
      cases outcome <;> rfl

theorem run_login (username password : String) (client : Client) :
    (login username password).run client =
      match (executeShape loginShape (loginRequest username password)).run
          { client with tokens := .empty } with
      | (.error cause, after) => (.error cause, after)
      | (.ok (_, value), after) =>
          match missingToken after.tokens with
          | some message => (.error (.authentication message), { after with tokens := .empty })
          | none => (.ok (loginStatus username value), after) := by
  simp only [login, dropTokens, run_bind, run_modify, run_get]
  rcases (executeShape loginShape (loginRequest username password)).run
    { client with tokens := .empty } with ⟨result, after⟩
  cases result with
  | error cause => rfl
  | ok pair =>
      obtain ⟨answer, value⟩ := pair
      dsimp only
      cases missingToken after.tokens <;> rfl

theorem run_logout (client : Client) :
    logout.run client = match (executeBytes logoutRequest).run client with
      | (.ok _, after) => (.ok (), { after with tokens := .empty })
      | (.error cause, after) => (.error cause, after) := by
  simp only [logout, run_bind, run_get]
  rcases (executeBytes logoutRequest).run client with ⟨result, after⟩
  cases result <;> rfl

/-! ## Bodies in pieces -/

theorem writePieces_eq (held : List UInt8) (pieces : List (List UInt8)) :
    writePieces held pieces = held ++ pieces.flatten := by
  induction pieces generalizing held with
  | nil => rw [writePieces, List.flatten_nil, List.append_nil]
  | cons piece rest ih => rw [writePieces, ih, List.flatten_cons, List.append_assoc]

@[simp] theorem flatten_cutAt (cuts : List Nat) (bytes : List UInt8) :
    (cutAt cuts bytes).flatten = bytes := by
  fun_induction cutAt cuts bytes with
  | case1 => rfl
  | case2 bytes => rw [List.flatten_singleton]
  | case3 cut cuts byte rest ih =>
      rw [List.flatten_cons, ih, List.cons_append, List.take_append_drop]

/-- Any pieces in which bytes may come are those of some cuts. -/
theorem exists_cutAt {pieces : List (List UInt8)} (full : ∀ piece ∈ pieces, piece ≠ []) :
    ∃ cuts, cutAt cuts pieces.flatten = pieces := by
  induction pieces with
  | nil => exact ⟨[], by rw [List.flatten_nil, cutAt]⟩
  | cons piece rest ih =>
      obtain ⟨cuts, cut⟩ := ih fun other found => full other (.tail _ found)
      cases piece with
      | nil => exact absurd rfl (full [] (.head _))
      | cons byte tail =>
          refine ⟨tail.length :: cuts, ?_⟩
          rw [List.flatten_cons, List.cons_append, cutAt, List.take_left, List.drop_left, cut]

/-- Wherever a body is cut, a writer holds the whole of it in the end. -/
theorem writePieces_pieces (answer : Answer) : writePieces [] answer.pieces = answer.body := by
  rw [writePieces_eq, List.nil_append, Answer.pieces, flatten_cutAt]

theorem run_executeWriting (request : Request) (client : Client) :
    executeWriting request client = match (send request).run client with
      | (.error cause, after) => (([], .error cause), after)
      | (.ok answer, after) =>
          ((answer.body, if answer.complete then .ok answer else .error (.transport false none)),
            after) := by
  unfold executeWriting
  change StateT.bind (send request).run _ client = _
  simp only [StateT.bind]
  rcases (send request).run client with ⟨result, after⟩
  cases result with
  | error cause => rfl
  | ok answer =>
      change (if answer.complete then
          (pure (writePieces [] answer.pieces, Except.ok answer) : StateM Client _)
        else pure (writePieces [] answer.pieces, .error (ClientError.transport false none))) after = _
      rw [writePieces_pieces]
      dsimp only
      by_cases whole : answer.complete = true
      · rw [if_pos whole, if_pos whole]; rfl
      · rw [if_neg whole, if_neg whole]; rfl

/-- Writing a body as it comes makes the same request as taking its bytes, leaves the same client
and ends the same way. -/
theorem executeWriting_eq_executeBytes (request : Request) (client : Client) :
    ((executeWriting request client).1.2.map fun _ => (), (executeWriting request client).2) =
      (ending (executeBytes request)).run client := by
  rw [run_executeWriting, run_ending, executeBytes, run_bind]
  rcases (send request).run client with ⟨result, after⟩
  cases result with
  | error cause => rfl
  | ok answer => cases whole : answer.complete <;> simp only [whole] <;> rfl

end Client

end NetConsole
