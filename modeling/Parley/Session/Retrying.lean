import Parley.Retry.Policy
import Parley.Session.Program

/-!
Contract: single calls that are repeated while the service is overloaded.

An attempt is repeated only if the service answered with an envelope without data
whose code is classified as retryable, and only as often as the policy allows.
Before a retry the program waits for a random delay. Failures of the transport
and answers without candidates are final.

Owns: `Executor`, `Completion` and `Executor.execute`.
-/

namespace Parley.Session

open Parley.Provider (Failure)
open Parley.Time (Duration)
open Parley.Wire (Answer Envelope Request)

/-- What decides about retries. -/
structure Executor where
  policy : Retry.Policy
  classify : Retry.Classifier

/-- A successful call: the answer, the attempts it took, and the time spent
waiting between them. -/
structure Completion where
  data : Answer
  attempts : Nat
  totalDelay : Duration

/-- The failure that an envelope without candidates reports. -/
def Envelope.failure (envelope : Envelope) : Failure :=
  .emptyResponse (some envelope.code) envelope.msg

def emptyEntry (envelope : Envelope) : Log.Entry :=
  .error ("zhipuai got empty response: msg: " ++ envelope.msg ++ " code: " ++
    toString envelope.code.toInt)

def retryEntry (attempt : Nat) (delay : Duration) : Log.Entry :=
  .info ("zhipuai triggers retry[" ++ toString attempt ++ "], sleeping " ++
    delay.toText ++ " before the next call")

/-- The least count of attempts that does not fit in 32 bits. -/
def attemptLimit : Nat := UInt32.size

namespace Executor

def jitterBound (executor : Executor) : Duration :=
  .ofMillis executor.policy.maxJitterMs.toNat

/-- Attempts a call until it is decided. `made` attempts were made before, with
`waited` between them. The program breaks down if the count of attempts or the
sum of the delays cannot be represented. -/
def attempt (executor : Executor) (request : Request) (made : Nat)
    (waited : Duration) : Program (Except Failure Completion) :=
  let number := made + 1
  if attemptLimit ≤ number then .breakdown
  else
    .perform (.invoke request) fun
      | .cancelled => .done (.error .cancelled)
      | .ready (.error failure) => .done (.error failure)
      | .ready (.ok envelope) =>
          match envelope.data with
          | some data =>
              if data.choices.isEmpty then
                .done (.error (Envelope.failure envelope))
              else .done (.ok ⟨data, number, waited⟩)
          | none =>
              .logged (emptyEntry envelope)
                (if _allowed : executor.policy.allows number
                    (executor.classify envelope.code) then
                  .perform (.drawJitter executor.jitterBound) fun delay =>
                    .logged (retryEntry number delay)
                      (.perform (.sleep delay) fun
                        | .cancelled => .done (.error .cancelled)
                        | .ready () =>
                            match waited.add? delay with
                            | none => .breakdown
                            | some total =>
                                executor.attempt request number total)
                else .done (.error (Envelope.failure envelope)))
termination_by executor.policy.retryTimes.toNat - made
decreasing_by
  simp only [Retry.Policy.allows, Bool.and_eq_true, decide_eq_true_eq]
    at _allowed
  omega

def execute (executor : Executor) (request : Request) :
    Program (Except Failure Completion) :=
  executor.attempt request 0 .zero

end Executor

end Parley.Session
