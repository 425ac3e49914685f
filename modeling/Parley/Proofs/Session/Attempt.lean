import Parley.Session.Retrying

/-!
Contract: what one attempt of a call does.

An attempt sends the request and writes to the log about the outcome. If the
outcome is overloaded and the policy allows another attempt, that follows after a
pause; otherwise the outcome decides the call. Whatever is proved about all
attempts of a call is proved here, by cases of `attempt_eq` and by induction on
the attempts that the policy still allows.

Owns: `verdict`, `Executor.Overloaded`, `Executor.afterOutcome`, and the equation
and the induction principle of attempts.
-/

namespace Parley.Session

open Parley.Provider (Failure)
open Parley.Time (Duration)
open Parley.Wire (Envelope Request)

/-- What an outcome that is not followed by another attempt means. -/
def verdict (attempts : Nat) (waited : Duration) :
    Except Failure Envelope → Except Failure Completion
  | .error failure => .error failure
  | .ok envelope =>
      match envelope.data with
      | none => .error (Envelope.failure envelope)
      | some data =>
          if data.choices.isEmpty then .error (Envelope.failure envelope)
          else .ok ⟨data, attempts, waited⟩

/-- What is logged about an outcome. -/
def outcomeEntries : Except Failure Envelope → List Log.Entry
  | .error _ => []
  | .ok envelope =>
      match envelope.data with
      | none => [emptyEntry envelope]
      | some _ => []

namespace Executor

/-- Whether an attempt may be repeated: the service answered with an envelope
without data whose code is retryable. -/
def Overloaded (executor : Executor) : Except Failure Envelope → Prop
  | .error _ => False
  | .ok envelope =>
      envelope.data = none ∧ executor.classify envelope.code = .retryable

instance (executor : Executor) :
    (outcome : Except Failure Envelope) → Decidable (executor.Overloaded outcome)
  | .error _ => inferInstanceAs (Decidable False)
  | .ok envelope =>
      inferInstanceAs (Decidable (envelope.data = none ∧
        executor.classify envelope.code = .retryable))

/-! ## One attempt -/

section Parts

variable (executor : Executor) (request : Request) (number : Nat)
  (waited : Duration)

/-- What follows a delay: the next attempt, if the sum of the delays is
represented. -/
def afterDelay (delay : Duration) : Program (Except Failure Completion) :=
  match waited.add? delay with
  | none => .breakdown
  | some total => executor.attempt request number total

/-- The pause before the next attempt. -/
def pause : Program (Except Failure Completion) :=
  .perform (.drawJitter executor.jitterBound) fun delay =>
    .logged (retryEntry number delay)
      (.perform (.sleep delay) fun
        | .cancelled => .done (.error .cancelled)
        | .ready () => executor.afterDelay request number waited delay)

/-- What follows the outcome of an attempt. -/
def afterOutcome (outcome : Except Failure Envelope) :
    Program (Except Failure Completion) :=
  .loggedAll (outcomeEntries outcome)
    (if executor.Overloaded outcome ∧
        number ≤ executor.policy.retryTimes.toNat then
      executor.pause request number waited
    else .done (verdict number waited outcome))

end Parts

variable {executor : Executor} {request : Request}

theorem allows_iff {number : Nat} {envelope : Envelope}
    (empty : envelope.data = none) :
    executor.policy.allows number (executor.classify envelope.code) = true ↔
      executor.Overloaded (.ok envelope) ∧
        number ≤ executor.policy.retryTimes.toNat := by
  simp [Overloaded, empty, Retry.Policy.allows]

/-- An attempt that can be counted sends the request, and what follows is decided
by the outcome. -/
theorem attempt_eq (made : Nat) (waited : Duration) :
    executor.attempt request made waited =
      if attemptLimit ≤ made + 1 then .breakdown
      else
        .perform (.invoke request) fun
          | .cancelled => .done (.error .cancelled)
          | .ready outcome =>
              executor.afterOutcome request (made + 1) waited outcome := by
  rw [attempt]
  by_cases full : attemptLimit ≤ made + 1
  · rw [if_pos full, if_pos full]
  rw [if_neg full, if_neg full]
  congr 1
  funext told
  rcases told with _ | failure | envelope
  · rfl
  · simp only [afterOutcome, Overloaded, false_and, if_false]
    rfl
  · cases empty : envelope.data with
    | none =>
        simp only [empty, afterOutcome, outcomeEntries]
        apply congrArg (Program.logged _)
        by_cases allowed : executor.policy.allows (made + 1)
          (executor.classify envelope.code) = true
        · rw [dif_pos allowed, if_pos ((allows_iff empty).mp allowed)]
          rfl
        · rw [dif_neg allowed, if_neg (mt (allows_iff empty).mpr allowed)]
          simp only [verdict, empty]
          rfl
    | some data =>
        simp only [empty, afterOutcome, outcomeEntries, Overloaded,
          reduceCtorEq, false_and, if_false, verdict]
        by_cases noChoice : data.choices.isEmpty = true
        · rw [if_pos noChoice, if_pos noChoice]
          rfl
        · rw [if_neg noChoice, if_neg noChoice]
          rfl

theorem afterDelay_eq_attempt {number : Nat} {waited delay total : Duration}
    (summed : waited.add? delay = some total) :
    executor.afterDelay request number waited delay =
      executor.attempt request number total := by
  rw [afterDelay, summed]

theorem afterDelay_eq_breakdown {number : Nat} {waited delay : Duration}
    (unsummed : waited.add? delay = none) :
    executor.afterDelay request number waited delay = .breakdown := by
  rw [afterDelay, unsummed]

/-! ## All attempts -/

/-- What is inherited by an attempt from the next one, if the policy allows it,
holds of all attempts. -/
theorem attempt_induction (executor : Executor) {holds : Nat → Prop}
    (step : ∀ made, (made + 1 ≤ executor.policy.retryTimes.toNat →
      holds (made + 1)) → holds made) (made : Nat) : holds made := by
  -- on the attempts that the policy still allows
  obtain ⟨remaining, isRemaining⟩ : ∃ remaining,
    remaining = executor.policy.retryTimes.toNat - made := ⟨_, rfl⟩
  induction remaining generalizing made with
  | zero =>
      apply step
      omega
  | succ remaining inductionHypothesis =>
      apply step
      intro _
      apply inductionHypothesis
      omega

end Executor

/-! ## Verdicts -/

section Verdicts

variable {attempts : Nat} {waited : Duration}
  {outcome : Except Failure Envelope}

/-- A success comes of an envelope that holds candidates. -/
theorem ok_of_verdict {completion : Completion}
    (succeeded : verdict attempts waited outcome = .ok completion) :
    ∃ envelope, outcome = .ok envelope ∧
      envelope.data = some completion.data ∧ completion.data.choices ≠ [] := by
  unfold verdict at succeeded
  split at succeeded
  · cases succeeded
  rename_i envelope
  split at succeeded
  · cases succeeded
  rename_i data hasData
  split at succeeded
  · cases succeeded
  · rename_i someChoice
    cases succeeded
    exact ⟨envelope, rfl, hasData, mt List.isEmpty_iff.mpr someChoice⟩

/-- A failure is that of the outcome, or it reports an answer without
candidates. -/
theorem failure_of_verdict {failure : Failure}
    (failed : verdict attempts waited outcome = .error failure) :
    outcome = .error failure ∨
      ∃ envelope, failure = Envelope.failure envelope := by
  unfold verdict at failed
  split at failed
  · exact .inl (congrArg _ (Except.error.inj failed))
  right
  split at failed
  · exact ⟨_, (Except.error.inj failed).symm⟩
  split at failed
  · exact ⟨_, (Except.error.inj failed).symm⟩
  · cases failed

end Verdicts

end Parley.Session
