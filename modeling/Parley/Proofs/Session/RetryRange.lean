import Parley.Proofs.Session.RetryRounds

/-!
Contract: which policies keep the arithmetic of retries in its range.

The count of attempts has 32 bits and the sum of the delays is a span, so a call
breaks down when one attempt more than the count can hold would be made, or when
the delays do not add up to a span. Delays below the bound of the policy cannot
bring that about exactly if the budget with its first attempt can be counted and
the longest delay before every retry can be summed.

Owns: `Handler.KeepsBounds`, what an attempt leads to in any surroundings,
`Surroundings.overloaded`, and the policies whose calls never break down.
-/

namespace Parley.Time.Duration

/-- The longest span below a bound; no time below the bound that is none. -/
def longestBelow (bound : Duration) : Duration :=
  ⟨bound.nanoseconds - 1⟩

/-- The longest span of whole milliseconds below a bound of at least one. -/
def longestMillisBelow (bound : Duration) : Duration :=
  .ofMillis (bound.toMillis - 1)

end Parley.Time.Duration

namespace Parley.Session

open Parley.Provider (Failure)
open Parley.Time (Duration)
open Parley.Wire (Envelope Request)

/-- The delay that is drawn for a bound. -/
def Handler.delay {σ : Type} (handler : Handler σ) (bound : Duration)
    (state : σ) : Duration :=
  (handler (.drawJitter bound) state).1

/-- Whether random delays are drawn below their bound, or are no time at all
where the bound is none. -/
def Handler.KeepsBounds {σ : Type} (handler : Handler σ) : Prop :=
  ∀ (bound : Duration) (state : σ),
    (handler.delay bound state).nanoseconds < bound.nanoseconds ∨
      bound = .zero ∧ handler.delay bound state = .zero

private theorem Handler.KeepsBounds.le_longest {σ : Type} {handler : Handler σ}
    (keeps : handler.KeepsBounds) (bound : Duration) (state : σ) :
    (handler.delay bound state).nanoseconds ≤
      bound.longestBelow.nanoseconds := by
  rcases keeps bound state with below | ⟨_, noDelay⟩
  · exact Nat.le_sub_one_of_lt below
  · rw [noDelay]
    exact Nat.zero_le _

namespace Executor

variable {executor : Executor} {request : Request}

/-! ## One attempt in any surroundings -/

/-- How many single calls a run made. -/
def callsMade (trace : List Exchange) : Nat :=
  (trace.filterMap Exchange.invoked?).length

/-- The calls after a single one and what is logged about it. -/
theorem callsMade_cons (told : Awaited (Except Failure Envelope))
    (entries : List Log.Entry) (later : List Exchange) :
    callsMade (⟨.invoke request, told⟩ :: (entries.map .logged ++ later)) =
      callsMade later + 1 := by
  unfold callsMade
  rw [List.filterMap_cons, List.filterMap_append,
    Exchange.filterMap_logged _ (fun _ => rfl)]
  rfl

/-- An attempt calls once. Then it ends the call, or it draws a delay within the
budget and goes on after it. -/
theorem attempt_ends_or_goes_on (executor : Executor) (request : Request)
    {σ : Type} (handler : Handler σ) {made : Nat} (waited : Duration) (state : σ)
    (fits : made + 1 < attemptLimit) :
    (((executor.attempt request made waited).run handler state).1 ≠ none ∧
        callsMade ((executor.attempt request made waited).trace handler state) =
          1) ∨
      ∃ before after : σ,
        let rest := executor.afterDelay request (made + 1) waited
          (handler.delay executor.jitterBound before)
        made + 1 ≤ executor.policy.retryTimes.toNat ∧
          ((executor.attempt request made waited).run handler state).1 =
            (rest.run handler after).1 ∧
          callsMade
              ((executor.attempt request made waited).trace handler state) =
            callsMade (rest.trace handler after) + 1 := by
  rw [attempt_eq, if_neg (Nat.not_le.mpr fits), Program.run_perform,
    Program.trace_perform]
  rcases handler (.invoke request) state with ⟨_ | outcome, answered⟩
  · exact .inl ⟨Option.some_ne_none _, rfl⟩
  dsimp only
  obtain ⟨before, ran, performed⟩ := Program.loggedAll_passes handler
    (outcomeEntries outcome) _ answered
  rw [afterOutcome, ran, performed, callsMade_cons]
  split
  · rename_i repeated
    simp only [pause, Program.logged, Program.run_perform,
      Program.trace_perform]
    generalize drawn : handler (.drawJitter executor.jitterBound) before =
      draw
    obtain ⟨delay, later⟩ := draw
    rcases handler (.sleep delay) (handler (.log (retryEntry (made + 1)
      delay)) later).2 with ⟨_ | ⟨⟨⟩⟩, after⟩
    · exact .inl ⟨Option.some_ne_none _, rfl⟩
    · right
      refine ⟨before, after, repeated.2, ?_, ?_⟩
      · rw [Handler.delay, drawn]
      · rw [Handler.delay, drawn]
        rfl
  · exact .inl ⟨Option.some_ne_none _, rfl⟩

/-! ## Policies whose calls stay in range -/

/-- A call in which the attempts and the delays that are still allowed fit does
not break down, and it makes no more calls than are allowed. -/
theorem attempt_stays_in_range {σ : Type} {handler : Handler σ}
    (keeps : handler.KeepsBounds) (remaining : Nat) {made : Nat} {waited : Duration}
    (state : σ) (budget : made + remaining = executor.policy.retryTimes.toNat)
    (counted : executor.policy.retryTimes.toNat + 1 < attemptLimit)
    (summed : waited.nanoseconds +
      remaining * executor.jitterBound.longestBelow.nanoseconds < Duration.limit) :
    ((executor.attempt request made waited).run handler state).1 ≠ none ∧
      callsMade ((executor.attempt request made waited).trace handler state) ≤
        remaining + 1 := by
  -- What was waited and the longest delays that are still allowed stay below the
  -- limit together: a delay moves from the second to the first.
  induction remaining generalizing made waited state with
  | zero =>
      rcases attempt_ends_or_goes_on executor request handler waited state
        (show made + 1 < attemptLimit by omega) with
        ⟨ended, once⟩ | ⟨_, _, exceeded, _, _⟩
      · exact ⟨ended, Nat.le_of_eq once⟩
      · omega
  | succ remaining inductionHypothesis =>
      rcases attempt_ends_or_goes_on executor request handler waited state
        (show made + 1 < attemptLimit by omega) with
        ⟨ended, once⟩ | ⟨before, after, _, ran, called⟩
      · exact ⟨ended, by omega⟩
      · rw [ran, called]
        have below := keeps.le_longest executor.jitterBound before
        generalize handler.delay executor.jitterBound before = delay
          at below ⊢
        rw [Nat.succ_mul] at summed
        have total : waited.add? delay =
            some ⟨waited.nanoseconds + delay.nanoseconds⟩ :=
          if_pos (by omega)
        rw [afterDelay_eq_attempt total]
        have later := @inductionHypothesis (made + 1)
          ⟨waited.nanoseconds + delay.nanoseconds⟩ after (by omega)
          (by dsimp only; omega)
        exact ⟨later.1, Nat.succ_le_succ later.2⟩

end Executor

/-! ## Services that are overloaded for ever -/

namespace Surroundings

/-- A service that answers every single call with an envelope of one code and
without data, beside a source of delays that depend on their bound alone. -/
def overloaded (code : Int64) (draw : Duration → Duration) :
    Surroundings Unit :=
  { acceptingAll with
    invoke := fun _ state => (.ok ⟨code, "", false, none⟩, state)
    drawJitter := fun bound state => (draw bound, state) }

private theorem overloaded_keepsBounds (code : Int64) :
    (overloaded code Duration.longestBelow).handler.KeepsBounds := by
  intro bound state
  obtain ⟨nanoseconds⟩ := bound
  cases nanoseconds with
  | zero => exact .inr ⟨rfl, rfl⟩
  | succ nanoseconds => exact .inl (Nat.lt_succ_self nanoseconds)

private theorem overloaded_keepsBounds_of_millis (code : Int64) :
    (overloaded code Duration.longestMillisBelow).handler.KeepsBounds := by
  intro bound state
  obtain ⟨nanoseconds⟩ := bound
  cases nanoseconds with
  | zero => exact .inr ⟨rfl, rfl⟩
  | succ nanoseconds =>
      left
      show (nanoseconds.succ / Duration.perMilli - 1) * Duration.perMilli <
        nanoseconds.succ
      rw [Duration.perMilli]
      omega

end Surroundings

namespace Executor

variable (executor : Executor) (request : Request) (code : Int64)
  (draw : Duration → Duration)

private theorem overloaded_delays_sum (count : Nat) :
    (Duration.sum (executor.delays (.overloaded code draw) request count
      ())).nanoseconds = count * (draw executor.jitterBound).nanoseconds := by
  induction count with
  | zero => exact (Nat.zero_mul _).symm
  | succ count inductionHypothesis =>
      rw [delays, Duration.sum_cons_nanoseconds]
      rw [Nat.succ_mul, Nat.add_comm]
      exact congrArg (· + _) inductionHypothesis

/-- Against a service that is overloaded for ever, a call breaks down if its
attempts cannot be counted or its delays cannot be summed. -/
theorem execute_breaks_down
    (retryable : executor.classify code = .retryable)
    (exceeds : attemptLimit ≤ executor.policy.retryTimes.toNat + 1 ∨
      Duration.limit ≤ executor.policy.retryTimes.toNat *
        (draw executor.jitterBound).nanoseconds) :
    ((Surroundings.overloaded code draw).run (executor.execute request)
      ()).1 = none := by
  apply attempt_breaks_down 0 .zero () executor.policy.retryTimes.toNat
  · exact Nat.le_of_eq (Nat.zero_add _)
  · intro index _
    exact ⟨rfl, retryable⟩
  · decide
  · rcases exceeds with uncounted | unsummed
    · left
      rw [Nat.zero_add]
      exact uncounted
    · right
      rw [Duration.Represented, Duration.sum_cons_nanoseconds,
        overloaded_delays_sum]
      show ¬ 0 + _ < _
      omega

/-- Whatever the service, the classification and the delays below their bound do,
a call neither breaks down nor makes more calls than its policy allows, exactly if
the policy leaves room to count the first attempt beside the retries and to sum
the longest delays before all of them. -/
theorem execute_stays_in_range_iff (policy : Retry.Policy) :
    (∀ (classify : Retry.Classifier) (request : Request) (σ : Type)
        (handler : Handler σ) (state : σ), handler.KeepsBounds →
      let call := Executor.execute ⟨policy, classify⟩ request
      (call.run handler state).1 ≠ none ∧
        callsMade (call.trace handler state) ≤
          policy.retryTimes.toNat + 1) ↔
      policy.retryTimes.toNat < UInt32.size - 1 ∧
        policy.retryTimes.toNat *
            (policy.maxJitterMs.toNat * 1000000 - 1) <
          UInt64.size * 1000000000 := by
  constructor
  · intro inRange
    have neverBreaks := (inRange (fun _ => .retryable) .standard Unit
      (Surroundings.overloaded 0 Duration.longestBelow).handler ()
      (Surroundings.overloaded_keepsBounds 0)).1
    refine Classical.byContradiction fun outside => ?_
    refine neverBreaks (execute_breaks_down ⟨policy, _⟩ .standard 0
      Duration.longestBelow rfl ?_)
    by_cases counted : policy.retryTimes.toNat < UInt32.size - 1
    · right
      exact Nat.not_lt.mp (not_and.mp outside counted)
    · left
      show UInt32.size ≤ policy.retryTimes.toNat + 1
      omega
  · rintro ⟨counted, summed⟩ classify request σ handler state keeps
    refine attempt_stays_in_range keeps policy.retryTimes.toNat state
      (Nat.zero_add _) (Nat.add_lt_of_lt_sub counted) ?_
    have noTime : Duration.zero.nanoseconds = 0 := rfl
    rw [noTime, Nat.zero_add]
    exact summed

/-- Two policies whose calls break down against a service that is overloaded for
ever: the longest delays add up to no span, or the attempts cannot be counted. -/
theorem execute_breaks_down_when_overloaded :
    let world :=
      Surroundings.overloaded 1302 Duration.longestMillisBelow
    world.handler.KeepsBounds ∧
      (world.run (Executor.execute
        ⟨⟨1001, 18446744073709551615⟩, Retry.serviceTable⟩ .standard) ()).1 =
          none ∧
      (world.run (Executor.execute
        ⟨⟨4294967295, 0⟩, Retry.serviceTable⟩ .standard) ()).1 = none := by
  intro world
  refine ⟨Surroundings.overloaded_keepsBounds_of_millis 1302, ?_, ?_⟩
  · exact execute_breaks_down _ .standard 1302 _ (by decide)
      (.inr (by decide))
  · exact execute_breaks_down _ .standard 1302 _ (by decide)
      (.inl (by decide))

end Executor

end Parley.Session
