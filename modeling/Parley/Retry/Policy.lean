import Parley.Schema.Record

/-!
Contract: which failed attempts are followed by another one.

Owns: `Policy`, `Decision`, the classification of status codes, and the rule that
combines them.
-/

namespace Parley.Retry

open Parley.Schema (Codec Record)

/-- How often a call is retried, not counting its first attempt, and the bound
of the random delay before a retry in milliseconds. -/
structure Policy where
  retryTimes : UInt32
  maxJitterMs : UInt64
deriving DecidableEq, Repr

/-- What a status code says about another attempt. -/
inductive Decision where
  | retryable
  | fatal
deriving DecidableEq, Repr

abbrev Classifier := Int64 → Decision

/-- The codes of a service that is overloaded: too many calls at once, too many
in a row, or more than the quota. -/
def overloadCodes : List Int64 :=
  [1302, 1303, 1305]

def ofTable (codes : List Int64) : Classifier := fun code =>
  if codes.contains code then .retryable else .fatal

def serviceTable : Classifier :=
  ofTable overloadCodes

namespace Policy

/-- Three retries, each after at most five seconds. -/
def standard : Policy :=
  ⟨3, 5000⟩

def ofTimes (retryTimes : UInt32) : Policy :=
  { standard with retryTimes }

def never : Policy :=
  ofTimes 0

/-- Whether an attempt that failed, counted from one, is followed by another. -/
def allows (policy : Policy) (attempt : Nat) (decision : Decision) : Bool :=
  decision == .retryable && attempt ≤ policy.retryTimes.toNat

def record : Record Policy where
  name := "RetryPolicy"
  blank := standard
  closed := true
  members := [
    .plain "retry_times" .defaulted .u32 (·.retryTimes)
      fun retryTimes policy => { policy with retryTimes },
    .plain "max_jitter_ms" .defaulted .u64 (·.maxJitterMs)
      fun maxJitterMs policy => { policy with maxJitterMs }]

def codec : Codec Policy := record.codec

end Policy

end Parley.Retry
