import Parley.Proofs.Session.RetryRounds

/-!
Contract: the result of a call that may be repeated.

Against any sequence of outcomes, the first outcome that is not overloaded, or
the one that exhausts the budget, decides the call; everything before it is one
round for each overloaded outcome.

Owns: `JitterSource`, surroundings that answer single calls in turn, and the
contract of `Executor.execute`.
-/

namespace Parley.Session

open Parley.Provider (Failure)
open Parley.Time (Duration)
open Parley.Wire (Answer Envelope Request)

/-- A source of random delays: how it answers a bound, over a state of its
own. -/
abbrev JitterSource (τ : Type) := Duration → τ → Duration × τ

variable {τ : Type}

/-- The first delays of a source for a bound. -/
def JitterSource.delays (jitter : JitterSource τ) (bound : Duration) :
    Nat → τ → List Duration
  | 0, _ => []
  | count + 1, source =>
      (jitter bound source).1 ::
        JitterSource.delays jitter bound count (jitter bound source).2

theorem JitterSource.delays_length (jitter : JitterSource τ)
    (bound : Duration) (count : Nat) (source : τ) :
    (jitter.delays bound count source).length = count := by
  induction count generalizing source with
  | zero => rfl
  | succ count inductionHypothesis =>
      rw [delays, List.length_cons, inductionHypothesis]

namespace Surroundings

/-- A service whose single calls end in turn with the outcomes of a sequence,
beside a source of random delays. The state counts the calls. -/
def inTurn (outcomes : Nat → Except Failure Envelope)
    (jitter : JitterSource τ) : Surroundings (Nat × τ) where
  connect _ state := (.ok (), state)
  invoke _ state := (outcomes state.1, (state.1 + 1, state.2))
  openStream _ state := (.ok [], state)
  awaitItem state := state
  deliver _ state := (.ok (), state)
  drawJitter bound state :=
    ((jitter bound state.2).1, (state.1, (jitter bound state.2).2))
  sleep _ state := state

variable (outcomes : Nat → Except Failure Envelope) (jitter : JitterSource τ)
  (executor : Executor) (request : Request)

theorem inTurn_outcomeAt (index calls : Nat) (source : τ) :
    executor.outcomeAt (inTurn outcomes jitter) request index
      (calls, source) = outcomes (calls + index) := by
  induction index generalizing calls source with
  | zero => rfl
  | succ index inductionHypothesis =>
      have later := inductionHypothesis (calls + 1)
        (jitter executor.jitterBound source).2
      rw [show calls + 1 + index = calls + (index + 1) by omega] at later
      exact later

theorem inTurn_delays (count calls : Nat) (source : τ) :
    executor.delays (inTurn outcomes jitter) request count (calls, source) =
      jitter.delays executor.jitterBound count source := by
  induction count generalizing calls source with
  | zero => rfl
  | succ count inductionHypothesis =>
      exact congrArg (_ :: ·) (inductionHypothesis (calls + 1) _)

end Surroundings

namespace Executor

/-- Whether a run made a request so many times more than it drew a delay, all
with the bound of the policy, and waited for each delay. -/
def PerformsRounds (executor : Executor) (request : Request)
    (delays : List Duration) (trace : List Exchange) : Prop :=
  trace.filterMap Exchange.invoked? =
      List.replicate (delays.length + 1) request ∧
    trace.filterMap Exchange.drawn? =
      delays.map (fun delay => (executor.jitterBound, delay)) ∧
    trace.filterMap Exchange.slept? = delays

/-- What a call performs and how it ends once it is known which attempt is its
last. -/
theorem execute_by_rounds (executor : Executor) (request : Request)
    (outcomes : Nat → Except Failure Envelope) (jitter : JitterSource τ)
    (source : τ) {last : Nat}
    (fits : executor.policy.retryTimes.toNat + 1 < attemptLimit)
    (budget : last ≤ executor.policy.retryTimes.toNat)
    (overloaded : ∀ index < last, executor.Overloaded (outcomes index))
    (decided : executor.Overloaded (outcomes last) →
      last = executor.policy.retryTimes.toNat)
    (represented : (Duration.sum
      (jitter.delays executor.jitterBound last source)).Represented) :
    let world := Surroundings.inTurn outcomes jitter
    let delays := jitter.delays executor.jitterBound last source
    (world.run (executor.execute request) (0, source)).1 =
        some (verdict (last + 1) (Duration.sum delays) (outcomes last)) ∧
      executor.PerformsRounds request delays
        (world.trace (executor.execute request) (0, source)) := by
  have outcomeAt (index : Nat) := Surroundings.inTurn_outcomeAt outcomes
    jitter executor request index 0 source
  have delaysAt := Surroundings.inTurn_delays outcomes jitter executor request
    last 0 source
  simp only [Nat.zero_add] at outcomeAt
  have fromZero (spans : List Duration) :
      Duration.sum (.zero :: spans) = Duration.sum spans := by
    simp only [Duration.sum, Duration.zero, Nat.zero_add]
  have budgetFromZero : 0 + last ≤ executor.policy.retryTimes.toNat := by
    rw [Nat.zero_add]
    exact budget
  obtain ⟨result, performed⟩ :=
    attempt_by_rounds 0 .zero (0, source) last fits budgetFromZero
      (fun index below => (outcomeAt index).symm ▸ overloaded index below)
      (fun repeated => by
        rw [outcomeAt] at repeated
        rw [Nat.zero_add]
        exact decided repeated)
      (by rw [fromZero, delaysAt]; exact represented)
  rw [fromZero, delaysAt, outcomeAt, Nat.zero_add] at result
  refine ⟨result, ?_⟩
  show PerformsRounds _ _ _ (Surroundings.trace _ _ _)
  rw [execute, performed, PerformsRounds]
  rw [List.filterMap_append, List.filterMap_append, List.filterMap_append,
    attemptTrace_filterMap Exchange.invoked? (fun _ => rfl),
    attemptTrace_filterMap Exchange.drawn? (fun _ => rfl),
    attemptTrace_filterMap Exchange.slept? (fun _ => rfl),
    rounds_filterMap Exchange.invoked? (fun _ => rfl) (fun _ => request)
      (fun _ _ => rfl),
    rounds_filterMap Exchange.drawn? (fun _ => rfl)
      (fun delay => (executor.jitterBound, delay)) (fun _ _ => rfl),
    rounds_filterMap Exchange.slept? (fun _ => rfl) id (fun _ _ => rfl),
    delaysAt, List.map_const', List.map_id]
  refine ⟨?_, List.append_nil _, List.append_nil _⟩
  exact List.replicate_succ'.symm

/-- The first outcome that is not overloaded decides a call if the budget
reaches it, and the last one that the budget reaches decides it otherwise. -/
theorem execute_ends_with_first_decided_outcome (executor : Executor)
    (request : Request) (outcomes : Nat → Except Failure Envelope)
    (jitter : JitterSource τ) (source : τ)
    (fits : executor.policy.retryTimes.toNat < UInt32.size - 1) :
    let retries := executor.policy.retryTimes.toNat
    let world := Surroundings.inTurn outcomes jitter
    let delays := fun count =>
      jitter.delays executor.jitterBound count source
    let result := (world.run (executor.execute request) (0, source)).1
    let trace := world.trace (executor.execute request) (0, source)
    (∀ last ≤ retries,
      (∀ index < last, executor.Overloaded (outcomes index)) →
      ¬ executor.Overloaded (outcomes last) →
      (Duration.sum (delays last)).Represented →
      (delays last).length = last ∧
        executor.PerformsRounds request (delays last) trace ∧
        (∀ failure, outcomes last = .error failure →
          result = some (.error failure)) ∧
        (∀ envelope, outcomes last = .ok envelope →
          (∀ data, envelope.data = some data → data.choices = []) →
          result = some (.error
            (.emptyResponse (some envelope.code) envelope.msg))) ∧
        (∀ envelope data, outcomes last = .ok envelope →
          envelope.data = some data → data.choices ≠ [] →
          result = some (.ok ⟨data, last + 1, Duration.sum (delays last)⟩))) ∧
    ((∀ index ≤ retries, executor.Overloaded (outcomes index)) →
      (Duration.sum (delays retries)).Represented →
      (delays retries).length = retries ∧
        executor.PerformsRounds request (delays retries) trace ∧
        ∃ envelope, outcomes retries = .ok envelope ∧
          result = some (.error
            (.emptyResponse (some envelope.code) envelope.msg))) := by
  intro retries world delays result trace
  have withinLimit : retries + 1 < attemptLimit := by
    simp only [attemptLimit, UInt32.size] at fits ⊢
    omega
  constructor
  · intro last budget overloaded decided represented
    obtain ⟨concluded, performed⟩ :=
      execute_by_rounds executor request outcomes jitter source withinLimit
        budget overloaded (fun repeated => absurd repeated decided) represented
    refine ⟨jitter.delays_length _ _ _, performed, ?_, ?_, ?_⟩
    · intro failure isFailure
      rw [isFailure] at concluded
      exact concluded
    · intro envelope isEnvelope noChoices
      rw [isEnvelope] at concluded
      refine concluded.trans (congrArg some ?_)
      rcases empty : envelope.data with _ | data
      · simp only [verdict, empty, Envelope.failure]
      · simp only [verdict, empty, noChoices data empty, List.isEmpty_nil,
          ↓reduceIte, Envelope.failure]
    · intro envelope data isEnvelope hasData choices
      rw [isEnvelope] at concluded
      refine concluded.trans (congrArg some ?_)
      simp only [verdict, hasData, List.isEmpty_iff, choices, ↓reduceIte]
      rfl
  · intro overloaded represented
    obtain ⟨concluded, performed⟩ :=
      execute_by_rounds executor request outcomes jitter source withinLimit
        (Nat.le_refl retries)
        (fun index below => overloaded index (Nat.le_of_lt below))
        (fun _ => rfl) represented
    refine ⟨jitter.delays_length _ _ _, performed, ?_⟩
    have last := overloaded retries (Nat.le_refl retries)
    cases answered : outcomes retries with
    | error failure => rw [answered] at last; exact last.elim
    | ok envelope =>
        rw [answered] at concluded last
        refine ⟨envelope, rfl, concluded.trans (congrArg some ?_)⟩
        simp only [verdict, last.1, Envelope.failure]

/-- The answer of a service that is asked for the third time. -/
def thirdAnswer : Answer :=
  { Answer.blank with choices := [⟨none, "hello"⟩] }

/-- A service that is overloaded twice. -/
def overloadedTwice : Nat → Except Failure Envelope
  | 0 => .ok ⟨1302, "too many calls", false, none⟩
  | 1 => .ok ⟨1305, "over quota", false, none⟩
  | _ => .ok ⟨200, "", true, some thirdAnswer⟩

/-- The standard policy carries a call over two overloaded attempts. -/
theorem execute_overloaded_twice :
    Retry.Policy.standard.retryTimes.toNat < UInt32.size - 1 ∧
      let executor : Executor := ⟨.standard, Retry.serviceTable⟩
      let jitter : JitterSource Nat := fun _ next => (.ofMillis next, next + 1)
      let world := Surroundings.inTurn overloadedTwice jitter
      (world.run (executor.execute .standard) (0, 20)).1 =
          some (.ok ⟨thirdAnswer, 3, .ofMillis 41⟩) ∧
        (world.trace (executor.execute .standard) (0, 20)).filterMap
          Exchange.slept? = [.ofMillis 20, .ofMillis 21] := by
  refine ⟨by decide, ?_⟩
  intro executor jitter world
  have contract := execute_ends_with_first_decided_outcome executor .standard
    overloadedTwice jitter 20 (by decide)
  have overloaded : ∀ index < 2, executor.Overloaded (overloadedTwice index)
    | 0, _ => ⟨rfl, by decide⟩
    | 1, _ => ⟨rfl, by decide⟩
  have decided : ¬ executor.Overloaded (overloadedTwice 2) :=
    fun repeated => nomatch repeated.1
  obtain ⟨_, performed, _, _, succeeds⟩ :=
    contract.1 2 (by decide) overloaded decided (by decide)
  have total : Duration.sum (jitter.delays executor.jitterBound 2 20) =
      .ofMillis 41 := by decide
  have answered := succeeds _ thirdAnswer rfl rfl (by decide)
  rw [total] at answered
  exact ⟨answered, performed.2.2⟩

end Executor

end Parley.Session
