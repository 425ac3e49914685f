import Parley.Proofs.Session.Attempt
import Parley.Proofs.Session.Surroundings

/-!
Contract: how a call is repeated.

A round is an attempt that is repeated: the request, a random delay, and a wait
of that length. A call makes rounds until an outcome is not overloaded or the
policy allows no further attempt; that outcome alone decides the result, unless
the attempts cannot be counted or the delays cannot be summed up to it.

Owns: rounds with the states between them, and the run and the trace of a call by
its rounds.
-/

namespace Parley.Time.Duration

/-- The sum of spans, represented or not. -/
def sum : List Duration → Duration
  | [] => .zero
  | span :: spans => ⟨span.nanoseconds + (sum spans).nanoseconds⟩

/-- Whether a span is represented. -/
def Represented (span : Duration) : Prop :=
  span.nanoseconds < limit

instance (span : Duration) : Decidable span.Represented :=
  inferInstanceAs (Decidable (span.nanoseconds < limit))

theorem add?_eq_some {first second : Duration}
    (represented : (sum [first, second]).Represented) :
    first.add? second = some (sum [first, second]) := by
  simp only [sum, zero, Represented, Nat.add_zero] at represented ⊢
  rw [add?, if_pos represented]

theorem of_add?_eq_some {first second total : Duration}
    (summed : first.add? second = some total) :
    total = sum [first, second] ∧ total.Represented := by
  rw [add?] at summed
  split at summed
  · rename_i represented
    obtain rfl := Option.some.inj summed
    exact ⟨rfl, represented⟩
  · cases summed

theorem sum_cons_nanoseconds (span : Duration) (spans : List Duration) :
    (sum (span :: spans)).nanoseconds =
      span.nanoseconds + (sum spans).nanoseconds :=
  rfl

/-- A sum may be begun with its first two spans. -/
theorem sum_cons_cons (first second : Duration) (spans : List Duration) :
    sum (first :: second :: spans) = sum (sum [first, second] :: spans) := by
  simp only [sum, zero, Nat.add_zero, Nat.add_assoc]

private theorem Represented.first_two {first second : Duration}
    {spans : List Duration}
    (represented : (sum (first :: second :: spans)).Represented) :
    (sum [first, second]).Represented := by
  simp only [sum, zero, Represented] at represented ⊢
  omega

end Parley.Time.Duration

namespace Parley.Session

open Parley.Provider (Failure)
open Parley.Time (Duration)
open Parley.Wire (Envelope Request)

namespace Executor

variable {σ : Type} (world : Surroundings σ) (executor : Executor)
  (request : Request)

/-! ## One attempt -/

/-- The delay that follows an attempt. -/
def delayAfter (state : σ) : Duration :=
  (world.drawJitter executor.jitterBound (world.invoke request state).2).1

/-- The state after an attempt and its delay. -/
def stateAfter (state : σ) : σ :=
  world.sleep (executor.delayAfter world request state)
    (world.drawJitter executor.jitterBound (world.invoke request state).2).2

/-- An attempt with its outcome. -/
def attemptTrace (outcome : Except Failure Envelope) : List Exchange :=
  ⟨.invoke request, .ready outcome⟩ :: (outcomeEntries outcome).map .logged

/-- What is performed between an attempt and the next one. -/
def pauseTrace (number : Nat) (delay : Duration) : List Exchange :=
  [⟨.drawJitter executor.jitterBound, delay⟩,
    .logged (retryEntry number delay), ⟨.sleep delay, .ready ()⟩]

variable {world executor request} (made : Nat) (waited : Duration) (state : σ)

/-- An overloaded attempt within the budget leads to what follows its delay. -/
theorem attempt_of_overloaded (fits : made + 1 < attemptLimit)
    (overloaded : executor.Overloaded (world.invoke request state).1)
    (allowed : made + 1 ≤ executor.policy.retryTimes.toNat) :
    let rest := executor.afterDelay request (made + 1) waited
      (executor.delayAfter world request state)
    world.run (executor.attempt request made waited) state =
        world.run rest (executor.stateAfter world request state) ∧
      world.trace (executor.attempt request made waited) state =
        attemptTrace request (world.invoke request state).1 ++
          executor.pauseTrace (made + 1)
            (executor.delayAfter world request state) ++
          world.trace rest (executor.stateAfter world request state) := by
  intro rest
  rw [Surroundings.run, Surroundings.trace, attempt_eq,
    if_neg (Nat.not_le.mpr fits), Program.run_perform, Program.trace_perform]
  simp only [Surroundings.handler, afterOutcome, Surroundings.run_loggedAll,
    Surroundings.trace_loggedAll, if_pos (And.intro overloaded allowed)]
  constructor
  · rfl
  · simp only [attemptTrace, List.cons_append, List.append_assoc]
    rfl

/-- Any other attempt decides the call. -/
theorem attempt_of_decided (fits : made + 1 < attemptLimit)
    (decided : executor.Overloaded (world.invoke request state).1 →
      executor.policy.retryTimes.toNat < made + 1) :
    world.run (executor.attempt request made waited) state =
        (some (verdict (made + 1) waited (world.invoke request state).1),
          (world.invoke request state).2) ∧
      world.trace (executor.attempt request made waited) state =
        attemptTrace request (world.invoke request state).1 := by
  have notRepeated : ¬ (executor.Overloaded (world.invoke request state).1 ∧
      made + 1 ≤ executor.policy.retryTimes.toNat) := by
    intro repeated
    exact Nat.not_le.mpr (decided repeated.1) repeated.2
  rw [Surroundings.run, Surroundings.trace, attempt_eq,
    if_neg (Nat.not_le.mpr fits), Program.run_perform, Program.trace_perform]
  simp only [Surroundings.handler, afterOutcome, Surroundings.run_loggedAll,
    Surroundings.trace_loggedAll, if_neg notRepeated]
  constructor
  · rfl
  · rw [Program.trace_done, List.append_nil, attemptTrace]

/-! ## All attempts -/

variable (world executor request)

/-- The state in which an attempt is made, counted from the one at hand, if all
attempts before it are repeated. -/
def stateBefore : Nat → σ → σ
  | 0, state => state
  | index + 1, state =>
      stateBefore index (executor.stateAfter world request state)

/-- The outcome of an attempt, counted from the one at hand. -/
def outcomeAt (index : Nat) (state : σ) : Except Failure Envelope :=
  (world.invoke request (executor.stateBefore world request index state)).1

/-- The delays after so many attempts. -/
def delays : Nat → σ → List Duration
  | 0, _ => []
  | count + 1, state =>
      executor.delayAfter world request state ::
        delays count (executor.stateAfter world request state)

/-- What so many rounds perform after `made` attempts. -/
def rounds : Nat → Nat → σ → List Exchange
  | 0, _, _ => []
  | count + 1, made, state =>
      attemptTrace request (world.invoke request state).1 ++
        executor.pauseTrace (made + 1)
          (executor.delayAfter world request state) ++
        rounds count (made + 1) (executor.stateAfter world request state)

variable {world executor request}

/-- A call goes through the overloaded attempts that its budget allows, and the
outcome of the attempt after them decides it. -/
theorem attempt_by_rounds (last : Nat)
    (fits : executor.policy.retryTimes.toNat + 1 < attemptLimit)
    (budget : made + last ≤ executor.policy.retryTimes.toNat)
    (overloaded : ∀ index < last, executor.Overloaded
      (executor.outcomeAt world request index state))
    (decided : executor.Overloaded
        (executor.outcomeAt world request last state) →
      made + last = executor.policy.retryTimes.toNat)
    (represented : (Duration.sum
      (waited :: executor.delays world request last state)).Represented) :
    (world.run (executor.attempt request made waited) state).1 =
        some (verdict (made + last + 1)
          (Duration.sum (waited :: executor.delays world request last state))
          (executor.outcomeAt world request last state)) ∧
      world.trace (executor.attempt request made waited) state =
        executor.rounds world request last made state ++
          attemptTrace request
            (executor.outcomeAt world request last state) := by
  induction last generalizing made waited state with
  | zero =>
      have exhausted : executor.Overloaded (world.invoke request state).1 →
          executor.policy.retryTimes.toNat < made + 1 := by
        intro repeated
        have reached := decided repeated
        omega
      obtain ⟨result, performed⟩ :=
        attempt_of_decided made waited state (by omega) exhausted
      rw [result, performed]
      exact ⟨rfl, rfl⟩
  | succ last inductionHypothesis =>
      obtain ⟨result, performed⟩ :=
        attempt_of_overloaded made waited state (by omega)
          (overloaded 0 (Nat.succ_pos last)) (by omega)
      rw [afterDelay_eq_attempt
        (Duration.add?_eq_some represented.first_two)] at result performed
      have regrouped : Duration.sum
            (waited :: executor.delays world request (last + 1) state) =
          Duration.sum
            (Duration.sum [waited, executor.delayAfter world request state] ::
              executor.delays world request last
                (executor.stateAfter world request state)) :=
        Duration.sum_cons_cons _ _ _
      rw [regrouped] at represented ⊢
      obtain ⟨laterResult, laterPerformed⟩ :=
        inductionHypothesis (made + 1) _ _ (by omega)
          (fun index below => overloaded (index + 1) (by omega))
          (fun repeated => by have reached := decided repeated; omega)
          represented
      constructor
      · rw [result, laterResult,
          show made + 1 + last + 1 = made + (last + 1) + 1 by omega]
        rfl
      · rw [performed, laterPerformed, rounds]
        simp only [List.append_assoc]
        rfl

/-- A call breaks down if more attempts than can be counted are overloaded, or if
the delays between them do not add up to a span. -/
theorem attempt_breaks_down (count : Nat)
    (budget : made + count ≤ executor.policy.retryTimes.toNat)
    (overloaded : ∀ index < count, executor.Overloaded
      (executor.outcomeAt world request index state))
    (represented : waited.Represented)
    (exceeds : attemptLimit ≤ made + count + 1 ∨ ¬ (Duration.sum
      (waited :: executor.delays world request count state)).Represented) :
    (world.run (executor.attempt request made waited) state).1 = none := by
  -- Each round adds an attempt to those made and its delay to the time waited,
  -- so that what is exceeded after all rounds is exceeded after those that are
  -- left.
  induction count generalizing made waited state with
  | zero =>
      rcases exceeds with uncounted | unsummed
      · rw [Surroundings.run, attempt_eq, if_pos uncounted]
        rfl
      · exact absurd represented unsummed
  | succ count inductionHypothesis =>
      by_cases full : attemptLimit ≤ made + 1
      · rw [Surroundings.run, attempt_eq, if_pos full]
        rfl
      rw [(attempt_of_overloaded made waited state (Nat.not_le.mp full)
        (overloaded 0 (Nat.succ_pos count)) (by omega)).1]
      cases sum : waited.add? (executor.delayAfter world request state) with
      | none =>
          rw [afterDelay_eq_breakdown sum]
          rfl
      | some total =>
          rw [afterDelay_eq_attempt sum]
          obtain ⟨rfl, stillRepresented⟩ := Duration.of_add?_eq_some sum
          apply inductionHypothesis
          · omega
          · intro index below
            exact overloaded (index + 1) (by omega)
          · exact stillRepresented
          · rw [← Duration.sum_cons_cons]
            rcases exceeds with uncounted | unsummed
            · left
              omega
            · exact .inr unsummed

/-! ## What rounds consist of -/

section Readings

variable {α : Type} (read : Exchange → Option α)
  (silent : ∀ entry, read (.logged entry) = none)

include silent

theorem attemptTrace_filterMap (outcome : Except Failure Envelope) :
    (attemptTrace request outcome).filterMap read =
      [⟨.invoke request, .ready outcome⟩].filterMap read := by
  rw [attemptTrace, ← List.singleton_append, List.filterMap_append,
    Exchange.filterMap_logged read silent, List.append_nil]

private theorem pauseTrace_filterMap (number : Nat) (delay : Duration) :
    (executor.pauseTrace number delay).filterMap read =
      [⟨.drawJitter executor.jitterBound, delay⟩,
        ⟨.sleep delay, .ready ()⟩].filterMap read := by
  simp only [pauseTrace, List.filterMap_cons, silent]

/-- A reading that finds one value in every round, which depends on its delay
alone, finds these values in the order of the rounds. -/
theorem rounds_filterMap (value : Duration → α)
    (inRound : ∀ (outcome : Except Failure Envelope) (delay : Duration),
      [⟨.invoke request, .ready outcome⟩,
        ⟨.drawJitter executor.jitterBound, delay⟩,
        ⟨.sleep delay, .ready ()⟩].filterMap read = [value delay])
    (count made : Nat) (state : σ) :
    (executor.rounds world request count made state).filterMap read =
      (executor.delays world request count state).map value := by
  induction count generalizing made state with
  | zero => rfl
  | succ count inductionHypothesis =>
      have found := inRound (world.invoke request state).1
        (executor.delayAfter world request state)
      rw [rounds, List.filterMap_append, List.filterMap_append,
        attemptTrace_filterMap read silent, pauseTrace_filterMap read silent,
        ← List.filterMap_append, List.singleton_append, found,
        inductionHypothesis]
      rfl

end Readings

end Executor

end Parley.Session
