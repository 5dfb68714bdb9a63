import NetConsole.Console.Failure

/-!
# What the exit status tells

The status with which the program exits tells as much of a failed call as the questions that callers
ask of its cause: whether the controller refused who asked, whether nothing was found, whether no
answer came in time or at all, and whether the call made no sense.
-/

set_option autoImplicit false

namespace NetConsole

/-- No answer came in time. -/
def ClientError.IsTimeout (error : ClientError) : Prop :=
  ∃ url, error = .transport true url

/-- There was no connection, for another reason than time. -/
def ClientError.IsUnreached (error : ClientError) : Prop :=
  (∃ url, error = .transport false url) ∨
    ∃ reason, error = .tls reason

/-- The call made no sense. -/
def ClientError.IsMisuse (error : ClientError) : Prop :=
  (∃ argument reason, error = .invalidArgument argument reason) ∨
    ∃ cause, error = .invalidUrl cause

namespace Failure

/-- Of an answer that is not one of success only the status counts. -/
theorem exitStatus_refused (refusal : Refusal) : (ofClient (.refused refusal)).exitStatus =
    if refusal.status = 401 ∨ refusal.status = 403 then 3
    else if refusal.status = 404 then 4 else 1 := by
  unfold ofClient
  dsimp only
  split
  · rfl
  · rfl

end Failure

/-- What an exit status says of a failed call, if it says that of no other one. -/
structure Tells (status : Nat) (error : ClientError) : Prop where
  auth : status = 3 ↔ error.isAuthFailure = true
  missing : status = 4 ↔ error.isNotFound = true
  timeout : status = 8 ↔ error.IsTimeout
  unreached : status = 7 ↔ error.IsUnreached
  misuse : status = 2 ↔ error.IsMisuse
  other : status = 1 ↔ ¬ error.isAuthFailure = true ∧ ¬ error.isNotFound = true ∧
    ¬ error.IsTimeout ∧ ¬ error.IsUnreached ∧ ¬ error.IsMisuse

theorem tells_refused (refusal : Refusal) :
    Tells (Failure.ofClient (.refused refusal)).exitStatus (.refused refusal) := by
  have timeout : ¬ ClientError.IsTimeout (.refused refusal) := by
    simp [ClientError.IsTimeout]
  have unreached : ¬ ClientError.IsUnreached (.refused refusal) := by
    simp [ClientError.IsUnreached]
  have misuse : ¬ ClientError.IsMisuse (.refused refusal) := by
    simp [ClientError.IsMisuse]
  have auth : ClientError.isAuthFailure (.refused refusal) = true ↔
      refusal.status = 401 ∨ refusal.status = 403 := by
    simp [ClientError.isAuthFailure]
  have missing : ClientError.isNotFound (.refused refusal) = true ↔
      refusal.status = 404 := by
    simp [ClientError.isNotFound]
  rw [Failure.exitStatus_refused]
  by_cases unwanted : refusal.status = 401 ∨ refusal.status = 403
  · have found : refusal.status ≠ 404 := by omega
    constructor <;>
      simp only [auth, missing, timeout, unreached, misuse, unwanted, found] <;> decide
  · by_cases absent : refusal.status = 404
    · constructor <;>
        simp only [auth, missing, timeout, unreached, misuse, absent] <;> decide
    · constructor <;>
        simp only [auth, missing, timeout, unreached, misuse, unwanted, absent] <;> decide

theorem tells_unanswered (timedOut : Bool) (url : Option Url) :
    Tells (Failure.ofClient (.transport timedOut url)).exitStatus
      (.transport timedOut url) := by
  have auth : ClientError.isAuthFailure (.transport timedOut url) = false := rfl
  have missing : ClientError.isNotFound (.transport timedOut url) = false := rfl
  have misuse : ¬ ClientError.IsMisuse (.transport timedOut url) := by
    simp [ClientError.IsMisuse]
  cases timedOut with
  | true =>
      constructor <;>
        simp [Failure.ofClient, Failure.exitStatus, auth, missing, misuse, ClientError.IsTimeout,
          ClientError.IsUnreached]
  | false =>
      constructor <;>
        simp [Failure.ofClient, Failure.exitStatus, auth, missing, misuse, ClientError.IsTimeout,
          ClientError.IsUnreached]

/-- The exit status and what callers can ask of the cause agree. -/
theorem tells_exitStatus (error : ClientError) :
    Tells (Failure.ofClient error).exitStatus error := by
  cases error with
  | refused refusal => exact tells_refused refusal
  | transport timedOut url => exact tells_unanswered timedOut url
  | _ =>
      constructor <;>
        simp [Failure.ofClient, Failure.exitStatus, ClientError.isAuthFailure,
          ClientError.isNotFound, ClientError.IsTimeout, ClientError.IsUnreached,
          ClientError.IsMisuse]

end NetConsole
