import Mathlib.Data.List.Forall2
import Mathlib.Data.List.Induction
import Parley.Proofs.Session.RetryContract
import Parley.Proofs.Session.RetryRange

/-!
Contract: calls that run at once on one executor.

Every call has a service, a request and a count of attempts of its own; what the
calls share is the source of random delays, which whoever draws next advances. So
a call draws other delays than it would alone, and nothing else: after any
interleaving of the steps of all calls, each of them stands where it would stand
alone after as many steps. The one way for delays to matter is their sum: a call
breaks down once it is not represented.

Owns: `Underway`, `Pool` and their steps, what is equal but for delays, and the
independence of the calls of a pool.
-/

namespace Parley.Time.Duration

theorem sum_append (first second : List Duration) :
    sum (first ++ second) =
      ⟨(sum first).nanoseconds + (sum second).nanoseconds⟩ := by
  induction first with
  | nil => simp only [List.nil_append, sum, zero, Nat.zero_add]
  | cons span first inductionHypothesis =>
      simp only [List.cons_append, sum, inductionHypothesis, Nat.add_assoc]

theorem Represented.of_append {first second : List Duration}
    (represented : (sum (first ++ second)).Represented) :
    (sum first).Represented := by
  rw [sum_append, Represented] at represented
  exact Nat.lt_of_le_of_lt (Nat.le_add_right _ _) represented

end Parley.Time.Duration

namespace Parley.Session

open Parley.Provider (Failure)
open Parley.Time (Duration)
open Parley.Wire (Answer Envelope Request)

/-! ## Calls under way -/

/-- A call under way: what is left of it, and what it performed so far. -/
structure Underway where
  rest : Program (Except Failure Completion)
  performed : List Exchange

namespace Underway

/-- A call that has not performed anything. -/
def start (program : Program (Except Failure Completion)) : Underway :=
  ⟨program, []⟩

/-- How a call ended, if it has: with a result, or with none if it broke
down. -/
def ending? (call : Underway) : Option (Option (Except Failure Completion)) :=
  match call.rest with
  | .done result => some (some result)
  | .breakdown => some none
  | .perform _ _ => none

/-- Performs the next effect of a call that has not ended. -/
def step {σ : Type} (handler : Handler σ) (call : Underway) (state : σ) :
    Underway × σ :=
  match call.rest with
  | .done _ => (call, state)
  | .breakdown => (call, state)
  | .perform effect next =>
      let (answer, after) := handler effect state
      (⟨next answer, call.performed ++ [⟨effect, answer⟩]⟩, after)

/-- The spans that a call waited for. -/
def waits (performed : List Exchange) : List Duration :=
  performed.filterMap Exchange.slept?

end Underway

/-- Calls under way that share a source of random delays. -/
structure Pool (ι τ : Type) where
  call : ι → Underway
  /-- How many outcomes of its service each call received. -/
  received : ι → Nat
  source : τ

namespace Pool

variable {ι τ : Type} [DecidableEq ι]

/-- Calls of one executor before their first step. -/
def start (executor : Executor) (requests : ι → Request) (source : τ) :
    Pool ι τ :=
  ⟨fun turn => .start (executor.execute (requests turn)), fun _ => 0, source⟩

variable (outcomes : ι → Nat → Except Failure Envelope)
  (jitter : JitterSource τ)

/-- The step of one call. -/
def step (pool : Pool ι τ) (turn : ι) : Pool ι τ :=
  let (call, received, source) := (pool.call turn).step
    (Surroundings.inTurn (outcomes turn) jitter).handler
    (pool.received turn, pool.source)
  { call := fun other => if other = turn then call else pool.call other
    received := fun other =>
      if other = turn then received else pool.received other
    source }

/-- The steps of calls in the order of their turns. -/
def after (pool : Pool ι τ) (turns : List ι) : Pool ι τ :=
  turns.foldl (step outcomes jitter) pool

end Pool

/-! ## Equal but for delays -/

/-- Exchanges that differ at most in a delay that was drawn, reported or waited
for. -/
inductive Exchange.SameButDelay : Exchange → Exchange → Prop where
  | invoked (request : Request)
      (outcome : Awaited (Except Failure Envelope)) :
      SameButDelay ⟨.invoke request, outcome⟩ ⟨.invoke request, outcome⟩
  | logged (entry : Log.Entry) :
      SameButDelay ⟨.log entry, ()⟩ ⟨.log entry, ()⟩
  | announced (number : Nat) (delay other : Duration) :
      SameButDelay ⟨.log (retryEntry number delay), ()⟩
        ⟨.log (retryEntry number other), ()⟩
  | drew (bound delay other : Duration) :
      SameButDelay ⟨.drawJitter bound, delay⟩ ⟨.drawJitter bound, other⟩
  | waited (delay other : Duration) (told : Awaited Unit) :
      SameButDelay ⟨.sleep delay, told⟩ ⟨.sleep other, told⟩

/-- Effects that differ at most in a delay. -/
def Effect.SameButDelay (effect other : Effect) : Prop :=
  ∃ answer otherAnswer,
    Exchange.SameButDelay ⟨effect, answer⟩ ⟨other, otherAnswer⟩

/-- Results that differ at most in the time spent waiting. -/
inductive SameButDelay :
    Except Failure Completion → Except Failure Completion → Prop where
  | failed (failure : Failure) : SameButDelay (.error failure) (.error failure)
  | completed (data : Answer) (attempts : Nat) (delay other : Duration) :
      SameButDelay (.ok ⟨data, attempts, delay⟩) (.ok ⟨data, attempts, other⟩)

/-- A verdict tells of the time spent waiting in a success alone. -/
theorem sameButDelay_verdict (attempts : Nat) (own alone : Duration)
    (outcome : Except Failure Envelope) :
    SameButDelay (verdict attempts own outcome)
      (verdict attempts alone outcome) := by
  cases outcome with
  | error failure => exact .failed failure
  | ok envelope =>
      cases hasData : envelope.data with
      | none =>
          simp only [verdict, hasData]
          exact .failed _
      | some data =>
          simp only [verdict, hasData]
          split
          · exact .failed _
          · exact .completed data attempts own alone

/-- Programs that do the same after so much waiting on each side, but for the
delays to come, as long as the time spent waiting is represented on both. -/
inductive Abreast : Duration → Duration →
    Program (Except Failure Completion) →
    Program (Except Failure Completion) → Prop where
  | ended {own alone : Duration} {result other : Except Failure Completion}
      (same : SameButDelay result other) :
      Abreast own alone (.done result) (.done other)
  | brokenDown {own alone : Duration} : Abreast own alone .breakdown .breakdown
  | perform {own alone : Duration} {effect other : Effect}
      {next : effect.Answer → Program (Except Failure Completion)}
      {otherNext : other.Answer → Program (Except Failure Completion)}
      (asked : effect.SameButDelay other)
      (goesOn : ∀ answer otherAnswer,
        Exchange.SameButDelay ⟨effect, answer⟩ ⟨other, otherAnswer⟩ →
        (Duration.sum (own :: Underway.waits [⟨effect, answer⟩])).Represented →
        (Duration.sum
          (alone :: Underway.waits [⟨other, otherAnswer⟩])).Represented →
        Abreast (Duration.sum (own :: Underway.waits [⟨effect, answer⟩]))
          (Duration.sum (alone :: Underway.waits [⟨other, otherAnswer⟩]))
          (next answer) (otherNext otherAnswer)) :
      Abreast own alone (.perform effect next) (.perform other otherNext)

namespace Abreast

variable {own alone : Duration}
  {next otherNext : Program (Except Failure Completion)}

/-! ## Attempts -/

theorem logged (entry : Log.Entry) (rest : Abreast own alone next otherNext) :
    Abreast own alone (.logged entry next) (.logged entry otherNext) :=
  .perform ⟨_, _, .logged entry⟩ fun _ _ _ _ _ => rest

theorem announced (number : Nat) (delay other : Duration)
    (rest : Abreast own alone next otherNext) :
    Abreast own alone (.logged (retryEntry number delay) next)
      (.logged (retryEntry number other) otherNext) :=
  .perform ⟨_, _, .announced number delay other⟩ fun _ _ _ _ _ => rest

theorem invoked (request : Request)
    {next otherNext : Awaited (Except Failure Envelope) →
      Program (Except Failure Completion)}
    (rest : ∀ outcome, Abreast own alone (next outcome) (otherNext outcome)) :
    Abreast own alone (.perform (.invoke request) next)
      (.perform (.invoke request) otherNext) := by
  refine .perform ⟨_, _, .invoked request .cancelled⟩ ?_
  intro outcome _ same _ _
  cases same
  exact rest outcome

theorem drew (bound : Duration)
    {next otherNext : Duration → Program (Except Failure Completion)}
    (rest : ∀ delay other, Abreast own alone (next delay) (otherNext other)) :
    Abreast own alone (.perform (.drawJitter bound) next)
      (.perform (.drawJitter bound) otherNext) :=
  .perform ⟨own, alone, .drew bound own alone⟩
    fun delay other _ _ _ => rest delay other

theorem waited (delay other : Duration)
    {next otherNext : Awaited Unit → Program (Except Failure Completion)}
    (rest : ∀ told, (Duration.sum [own, delay]).Represented →
      (Duration.sum [alone, other]).Represented →
      Abreast (Duration.sum [own, delay]) (Duration.sum [alone, other])
        (next told) (otherNext told)) :
    Abreast own alone (.perform (.sleep delay) next)
      (.perform (.sleep other) otherNext) := by
  refine .perform ⟨_, _, .waited delay other .cancelled⟩ ?_
  intro told _ same represented otherRepresented
  cases same
  exact rest told represented otherRepresented

theorem loggedAll (entries : List Log.Entry)
    (rest : Abreast own alone next otherNext) :
    Abreast own alone (.loggedAll entries next)
      (.loggedAll entries otherNext) := by
  induction entries with
  | nil => exact rest
  | cons entry entries inductionHypothesis =>
      exact .logged entry inductionHypothesis

/-- An attempt does the same whatever was waited for before it. -/
theorem attempt (executor : Executor) (request : Request) (made : Nat)
    (own alone : Duration) :
    Abreast own alone (executor.attempt request made own)
      (executor.attempt request made alone) := by
  induction made using executor.attempt_induction
    generalizing own alone with
  | step made inductionHypothesis =>
      rw [Executor.attempt_eq, Executor.attempt_eq]
      split
      · exact .brokenDown
      refine invoked request ?_
      rintro (_ | outcome)
      · exact .ended (.failed .cancelled)
      refine loggedAll _ ?_
      split
      · rename_i repeated
        refine drew _ fun delay other => announced _ delay other ?_
        refine waited delay other ?_
        rintro (_ | ⟨⟨⟩⟩) represented otherRepresented
        · exact .ended (.failed .cancelled)
        · dsimp only
          rw [Executor.afterDelay_eq_attempt
              (Duration.add?_eq_some represented),
            Executor.afterDelay_eq_attempt
              (Duration.add?_eq_some otherRepresented)]
          exact inductionHypothesis repeated.2 _ _
      · exact .ended (sameButDelay_verdict _ own alone outcome)

end Abreast

/-! ## One step -/

/-- How much a call waited after more was performed. -/
theorem Underway.sum_waits_append (performed more : List Exchange) :
    Duration.sum (waits (performed ++ more)) =
      Duration.sum (Duration.sum (waits performed) :: waits more) := by
  rw [waits, List.filterMap_append, Duration.sum_append]
  rfl

theorem Underway.represented_of_append {performed more : List Exchange}
    (represented : (Duration.sum (waits (performed ++ more))).Represented) :
    (Duration.sum (waits performed)).Represented := by
  rw [waits, List.filterMap_append] at represented
  exact represented.of_append

private theorem Underway.step_perform {σ : Type} (handler : Handler σ)
    (effect : Effect)
    (next : effect.Answer → Program (Except Failure Completion))
    (performed : List Exchange) (state : σ) :
    step handler ⟨.perform effect next, performed⟩ state =
      (⟨next (handler effect state).1,
          performed ++ [⟨effect, (handler effect state).1⟩]⟩,
        (handler effect state).2) :=
  rfl

/-- A step adds to what a call performed. -/
theorem Underway.step_performed {σ : Type} (handler : Handler σ)
    (call : Underway) (state : σ) :
    ∃ more, (call.step handler state).1.performed = call.performed ++ more := by
  obtain ⟨rest, performed⟩ := call
  cases rest with
  | done result => exact ⟨[], (List.append_nil performed).symm⟩
  | breakdown => exact ⟨[], (List.append_nil performed).symm⟩
  | perform effect next => exact ⟨_, rfl⟩

/-- A step of a call takes the first of what its program is about to perform. -/
theorem Underway.run_step {σ : Type} (handler : Handler σ) (call : Underway)
    (state : σ) :
    let after := call.step handler state
    after.1.rest.run handler after.2 = call.rest.run handler state ∧
      after.1.rest.trace handler after.2 =
        (call.rest.trace handler state).tail := by
  obtain ⟨rest, performed⟩ := call
  cases rest <;> exact ⟨rfl, rfl⟩

/-- A call with nothing left to perform has ended. -/
theorem Underway.ending?_of_trace_eq_nil {σ : Type} {handler : Handler σ}
    {call : Underway} (state : σ)
    (ended : call.rest.trace handler state = []) :
    call.ending? = some (call.rest.run handler state).1 ∧
      (call.rest.run handler state).2 = state := by
  obtain ⟨rest, performed⟩ := call
  cases rest with
  | done result => exact ⟨rfl, rfl⟩
  | breakdown => exact ⟨rfl, rfl⟩
  | perform effect next => exact absurd ended (List.cons_ne_nil _ _)

section Lone

variable {τ : Type} (outcomes : Nat → Except Failure Envelope)
  (jitter : JitterSource τ)

/-- A service and a source answer effects that are equal but for delays with
answers that are. -/
theorem Surroundings.inTurn_answers_alike {effect other : Effect}
    (asked : effect.SameButDelay other) (received : Nat)
    (source otherSource : τ) :
    let handler := (Surroundings.inTurn outcomes jitter).handler
    Exchange.SameButDelay ⟨effect, (handler effect (received, source)).1⟩
        ⟨other, (handler other (received, otherSource)).1⟩ ∧
      (handler effect (received, source)).2.1 =
        (handler other (received, otherSource)).2.1 := by
  obtain ⟨_, _, alike⟩ := asked
  cases alike with
  | invoked request outcome => exact ⟨.invoked request _, rfl⟩
  | logged entry => exact ⟨.logged entry, rfl⟩
  | announced number delay other =>
      exact ⟨.announced number delay other, rfl⟩
  | drew bound => exact ⟨.drew bound _ _, rfl⟩
  | waited delay other => exact ⟨.waited delay other _, rfl⟩

/-- A call that stands, but for delays, where a run with a trace and a result
stands after so many steps. -/
def Underway.KeepsPace (trace : List Exchange)
    (result : Option (Except Failure Completion)) (steps : Nat)
    (call : Underway) (received : Nat) : Prop :=
  ∃ (rest : Program (Except Failure Completion)) (source : τ),
    let world := Surroundings.inTurn outcomes jitter
    world.trace rest (received, source) = trace.drop steps ∧
      (world.run rest (received, source)).1 = result ∧
      List.Forall₂ Exchange.SameButDelay call.performed (trace.take steps) ∧
      Abreast (Duration.sum (waits call.performed))
        (Duration.sum (waits (trace.take steps))) call.rest rest

variable {outcomes jitter} {trace : List Exchange}
  {result : Option (Except Failure Completion)} {steps received : Nat}

/-- A run that has nothing left stands still. -/
theorem take_of_drop_eq_nil (ended : trace.drop steps = []) :
    trace.take (steps + 1) = trace.take steps ∧ trace.drop (steps + 1) = [] := by
  rw [List.drop_eq_nil_iff] at ended
  exact ⟨by rw [List.take_of_length_le ended,
    List.take_of_length_le (Nat.le_succ_of_le ended)],
    List.drop_eq_nil_of_le (Nat.le_succ_of_le ended)⟩

/-- A run performs what comes first of what is left of it. -/
theorem take_of_drop_eq_cons {exchange : Exchange} {left : List Exchange}
    (goesOn : trace.drop steps = exchange :: left) :
    trace.take (steps + 1) = trace.take steps ++ [exchange] ∧
      trace.drop (steps + 1) = left := by
  constructor
  · rw [List.take_add_one, ← List.head?_drop, goesOn]
    rfl
  · rw [← List.tail_drop, goesOn]
    rfl

/-- A call keeps pace with its next step, if the time spent waiting is
represented after it. -/
theorem Underway.KeepsPace.step {call : Underway}
    (pace : call.KeepsPace outcomes jitter trace result steps received)
    (shared : τ) {stepped : Underway} {now : Nat × τ}
    (isStep : call.step (Surroundings.inTurn outcomes jitter).handler
      (received, shared) = (stepped, now))
    (represented : (Duration.sum (waits stepped.performed)).Represented)
    (aloneRepresented :
      (Duration.sum (waits (trace.take (steps + 1)))).Represented) :
    stepped.KeepsPace outcomes jitter trace result (steps + 1) now.1 := by
  obtain ⟨rest, source, left, ends, same, abreast⟩ := pace
  obtain ⟨callRest, performed⟩ := call
  cases abreast with
  | ended alike =>
      obtain ⟨rfl, rfl⟩ := Prod.mk.inj isStep
      obtain ⟨taken, dropped⟩ := take_of_drop_eq_nil left.symm
      refine ⟨.done _, source, dropped.symm, ends, ?_, .ended alike⟩
      rw [taken]
      exact same
  | brokenDown =>
      obtain ⟨rfl, rfl⟩ := Prod.mk.inj isStep
      obtain ⟨taken, dropped⟩ := take_of_drop_eq_nil left.symm
      refine ⟨.breakdown, source, dropped.symm, ends, ?_, .brokenDown⟩
      rw [taken]
      exact same
  | @perform _ _ _ other _ otherNext asked goesOn =>
      rw [step_perform] at isStep
      obtain ⟨rfl, rfl⟩ := Prod.mk.inj isStep
      obtain ⟨alike, sameReceived⟩ := Surroundings.inTurn_answers_alike outcomes
        jitter asked received shared source
      obtain ⟨taken, dropped⟩ := take_of_drop_eq_cons left.symm
      rw [taken, sum_waits_append] at aloneRepresented
      rw [sum_waits_append] at represented
      rw [sameReceived]
      refine ⟨otherNext _, _, dropped.symm, ends, ?_, ?_⟩
      · rw [taken]
        exact List.rel_append same (.cons alike .nil)
      · rw [taken, sum_waits_append, sum_waits_append]
        exact goesOn _ _ alike represented aloneRepresented

end Lone

/-! ## What keeping pace means -/

/-- What is equal but for delays makes the same requests. -/
theorem Exchange.invoked?_eq_of_same {performed alone : List Exchange}
    (same : List.Forall₂ SameButDelay performed alone) :
    performed.filterMap invoked? = alone.filterMap invoked? := by
  induction same with
  | nil => rfl
  | cons alike _ inductionHypothesis =>
      rw [List.filterMap_cons, List.filterMap_cons, inductionHypothesis]
      cases alike <;> rfl

section Endings

variable {σ : Type} (world : Surroundings σ) {state : σ} {own alone : Duration}
  {call : Underway} {rest : Program (Except Failure Completion)}

/-- A call has not ended if something is left to perform alone. -/
theorem Abreast.goesOn (abreast : Abreast own alone call.rest rest)
    (left : world.trace rest state ≠ []) : call.ending? = none := by
  obtain ⟨callRest, performed⟩ := call
  cases abreast with
  | ended same => exact absurd rfl left
  | brokenDown => exact absurd rfl left
  | perform asked goesOn => rfl

/-- A call has ended, and in the same way, if nothing is left to perform
alone. -/
theorem Abreast.hasEnded (abreast : Abreast own alone call.rest rest)
    (left : world.trace rest state = []) :
    call.ending? = some none ∧ (world.run rest state).1 = none ∨
      ∃ result other, call.ending? = some (some result) ∧
        (world.run rest state).1 = some other ∧ SameButDelay result other := by
  obtain ⟨callRest, performed⟩ := call
  cases abreast with
  | ended same => exact .inr ⟨_, _, rfl, rfl, same⟩
  | brokenDown => exact .inl ⟨rfl, rfl⟩
  | perform asked goesOn => exact absurd left (List.cons_ne_nil _ _)

end Endings

/-! ## All interleavings -/

namespace Pool

variable {ι τ : Type} [DecidableEq ι]
  (outcomes : ι → Nat → Except Failure Envelope) (jitter : JitterSource τ)

theorem step_turn (pool : Pool ι τ) (turn : ι) :
    (pool.call turn).step
        (Surroundings.inTurn (outcomes turn) jitter).handler
        (pool.received turn, pool.source) =
      ((pool.step outcomes jitter turn).call turn,
        (pool.step outcomes jitter turn).received turn,
        (pool.step outcomes jitter turn).source) := by
  simp only [step, ↓reduceIte]

/-- The step of a call leaves all others where they are. -/
theorem step_other (pool : Pool ι τ) {turn other : ι} (differs : other ≠ turn) :
    (pool.step outcomes jitter turn).call other = pool.call other ∧
      (pool.step outcomes jitter turn).received other = pool.received other := by
  simp only [step, differs, ↓reduceIte, and_self]

theorem after_append (pool : Pool ι τ) (turns more : List ι) :
    pool.after outcomes jitter (turns ++ more) =
      (pool.after outcomes jitter turns).after outcomes jitter more :=
  List.foldl_append

variable (executor : Executor) (requests : ι → Request) (source fresh : τ)

/-- After any interleaving a call stands, but for delays, where it stands after
as many steps alone. -/
theorem keepsPace (turns : List ι) (turn : ι) :
    let world := Surroundings.inTurn (outcomes turn) jitter
    let program := executor.execute (requests turn)
    let trace := world.trace program (0, fresh)
    let pool := (start executor requests source).after outcomes jitter turns
    (Duration.sum (Underway.waits (pool.call turn).performed)).Represented →
      (Duration.sum (Underway.waits
        (trace.take (turns.count turn)))).Represented →
      (pool.call turn).KeepsPace (outcomes turn) jitter trace
        (world.run program (0, fresh)).1 (turns.count turn)
        (pool.received turn) := by
  intro world program trace
  induction turns using List.reverseRecOn with
  | nil =>
      intro pool _ _
      exact ⟨program, fresh, rfl, rfl, .nil,
        .attempt executor (requests turn) 0 .zero .zero⟩
  | append_singleton earlier last inductionHypothesis =>
      intro pool represented aloneRepresented
      generalize before : (start executor requests source).after outcomes jitter
        earlier = former at inductionHypothesis
      have isStep : pool = former.step outcomes jitter last := by
        rw [← before]
        exact after_append outcomes jitter _ earlier [last]
      rw [isStep] at represented ⊢
      by_cases own : turn = last
      · subst own
        have stepped := former.step_turn outcomes jitter turn
        rw [List.count_append, List.count_singleton_self] at aloneRepresented ⊢
        refine Underway.KeepsPace.step (inductionHypothesis ?_ ?_) _ stepped
          represented aloneRepresented
        · obtain ⟨more, performed⟩ := Underway.step_performed
            (Surroundings.inTurn (outcomes turn) jitter).handler
            (former.call turn) (former.received turn, former.source)
          rw [stepped] at performed
          rw [performed] at represented
          exact Underway.represented_of_append represented
        · rw [List.take_add_one] at aloneRepresented
          exact Underway.represented_of_append aloneRepresented
      · obtain ⟨sameCall, sameReceived⟩ :=
          former.step_other outcomes jitter own
        rw [List.count_append, List.count_singleton,
          if_neg (by simpa using Ne.symm own), Nat.add_zero]
          at aloneRepresented ⊢
        rw [sameCall] at represented ⊢
        rw [sameReceived]
        exact inductionHypothesis represented aloneRepresented

/-- Calls that run at once on one executor do not influence each other: after any
interleaving of their steps a call performed what it performs alone in as many
steps, but for the delays, and it has ended exactly if it has then ended alone,
in the same way but for the time spent waiting. All this holds as long as the
time that it waited, among the others and alone, is represented. -/
theorem calls_are_independent (turns : List ι) (turn : ι) :
    let world := Surroundings.inTurn (outcomes turn) jitter
    let program := executor.execute (requests turn)
    let trace := world.trace program (0, fresh)
    let alone := trace.take (turns.count turn)
    let call := ((start executor requests source).after outcomes jitter
      turns).call turn
    (Duration.sum (Underway.waits call.performed)).Represented →
      (Duration.sum (Underway.waits alone)).Represented →
      List.Forall₂ Exchange.SameButDelay call.performed alone ∧
        call.performed.filterMap Exchange.invoked? =
          alone.filterMap Exchange.invoked? ∧
        (turns.count turn < trace.length → call.ending? = none) ∧
        (trace.length ≤ turns.count turn →
          call.ending? = some none ∧
              (world.run program (0, fresh)).1 = none ∨
            ∃ result other, call.ending? = some (some result) ∧
              (world.run program (0, fresh)).1 = some other ∧
              SameButDelay result other) := by
  intro world program trace alone call represented aloneRepresented
  obtain ⟨rest, later, left, ends, same, abreast⟩ := keepsPace outcomes jitter
    executor requests source fresh turns turn represented aloneRepresented
  exact ⟨same, Exchange.invoked?_eq_of_same same,
    fun unfinished => abreast.goesOn _ (by
      rw [left]
      exact mt List.drop_eq_nil_iff.mp (Nat.not_le.mpr unfinished)),
    fun finished => ends ▸ abreast.hasEnded _ (by
      rw [left]
      exact List.drop_eq_nil_of_le finished)⟩

/-- A source that draws one millisecond more each time. -/
def risingJitter : JitterSource Nat := fun _ next => (.ofMillis next, next + 1)

/-- What two services do: the first is overloaded twice and then answers, the
second is overloaded once and then fails. -/
def unevenServices : Bool → Nat → Except Failure Envelope
  | false, index => Executor.overloadedTwice index
  | true, 0 => .ok ⟨1303, "", false, none⟩
  | true, _ => .error .timeout

/-- The standard policy with the codes of the service. -/
def standardExecutor : Executor := ⟨.standard, Retry.serviceTable⟩

/-- Two calls that take turns. -/
def alternating : List Bool := (List.replicate 11 [false, true]).flatten

/-- Two calls that take turns draw each other's delays, and the first makes its
three attempts and is answered all the same. -/
theorem alternating_calls_are_independent :
    let call := ((start standardExecutor (fun _ => .standard) 20).after
      unevenServices risingJitter alternating).call false
    let alone := (Surroundings.inTurn (unevenServices false) risingJitter).trace
      (standardExecutor.execute .standard) (0, 20)
    Underway.waits call.performed = [.ofMillis 20, .ofMillis 22] ∧
      Underway.waits alone = [.ofMillis 20, .ofMillis 21] ∧
      List.Forall₂ Exchange.SameButDelay call.performed alone ∧
      ∃ delay, call.ending? =
        some (some (.ok ⟨Executor.thirdAnswer, 3, delay⟩)) := by
  intro call alone
  have whole : alone.take (alternating.count false) = alone :=
    List.take_of_length_le (by decide +kernel)
  obtain ⟨total, result⟩ : ∃ total,
      ((Surroundings.inTurn (unevenServices false) risingJitter).run
        (standardExecutor.execute .standard) (0, 20)).1 =
        some (.ok ⟨Executor.thirdAnswer, 3, total⟩) :=
    ⟨_, (Executor.execute_by_rounds standardExecutor .standard
      (unevenServices false) risingJitter 20 (by decide) (show 2 ≤ 3 by decide)
      (fun | 0, _ => ⟨rfl, by decide⟩ | 1, _ => ⟨rfl, by decide⟩)
      (fun overloaded => nomatch overloaded.1) (by decide)).1⟩
  obtain ⟨same, _, _, ended⟩ := calls_are_independent unevenServices risingJitter
    standardExecutor (fun _ => .standard) 20 20 alternating false
    (by decide +kernel) (by decide +kernel)
  rw [whole] at same
  refine ⟨by decide +kernel, by decide +kernel, same, ?_⟩
  obtain ⟨_, brokenDown⟩ | ⟨own, other, atEnd, endedAlone, alike⟩ :=
    ended (by decide +kernel)
  · exact nomatch brokenDown.symm.trans result
  · rw [Option.some.inj (endedAlone.symm.trans result)] at alike
    cases alike with
    | completed data attempts delay => exact ⟨delay, atEnd⟩

/-! ## Turns in a row -/

/-- A call may run to its end while the others stand still. -/
theorem exists_turns_to_end (pool : Pool ι τ) (turn : ι) :
    ∃ turns,
      let ran := (Surroundings.inTurn (outcomes turn) jitter).run
        (pool.call turn).rest (pool.received turn, pool.source)
      let later := pool.after outcomes jitter turns
      (later.call turn).ending? = some ran.1 ∧ later.source = ran.2.2 ∧
        ∀ other ≠ turn, later.call other = pool.call other ∧
          later.received other = pool.received other := by
  -- on what is left of the call, one turn for each of its steps
  obtain ⟨left, isLeft⟩ : ∃ left, left =
      (Surroundings.inTurn (outcomes turn) jitter).trace (pool.call turn).rest
        (pool.received turn, pool.source) := ⟨_, rfl⟩
  induction left generalizing pool with
  | nil =>
      obtain ⟨ended, still⟩ := Underway.ending?_of_trace_eq_nil _ isLeft.symm
      exact ⟨[], ended, congrArg Prod.snd still.symm, fun _ _ => ⟨rfl, rfl⟩⟩
  | cons exchange left inductionHypothesis =>
      obtain ⟨sameRun, shorter⟩ := (pool.call turn).run_step
        (Surroundings.inTurn (outcomes turn) jitter).handler
        (pool.received turn, pool.source)
      rw [pool.step_turn outcomes jitter turn] at sameRun shorter
      obtain ⟨turns, ended, source, still⟩ :=
        inductionHypothesis (pool.step outcomes jitter turn)
          ((congrArg List.tail isLeft).trans shorter.symm)
      rw [Surroundings.run, sameRun] at ended source
      refine ⟨turn :: turns, ended, source, fun other differs => ?_⟩
      obtain ⟨sameCall, sameReceived⟩ :=
        pool.step_other outcomes jitter differs
      exact ⟨(still other differs).1.trans sameCall,
        (still other differs).2.trans sameReceived⟩

end Pool

/-! ## Two calls whose delays add up only alone -/

/-- A source that draws no time at first, and then the longest time of whole
milliseconds below the bound. -/
def lateJitter : JitterSource Bool := fun bound drawn =>
  (if drawn then bound.longestMillisBelow else .zero, true)

/-- A service that is overloaded so many times. -/
def overloadedTimes (count : Nat) : Nat → Except Failure Envelope := fun index =>
  if index < count then .ok ⟨1302, "", false, none⟩
  else .ok ⟨200, "", true, some Executor.thirdAnswer⟩

/-- Many retries after long delays. -/
def patientExecutor : Executor :=
  ⟨⟨1001, 18446744073709551615⟩, Retry.serviceTable⟩

theorem lateJitter_sum (bound : Duration) (count : Nat) :
    (Duration.sum (lateJitter.delays bound count true)).nanoseconds =
        count * bound.longestMillisBelow.nanoseconds ∧
      (Duration.sum (lateJitter.delays bound (count + 1) false)).nanoseconds =
        count * bound.longestMillisBelow.nanoseconds := by
  have drawn : (Duration.sum (lateJitter.delays bound count true)).nanoseconds =
      count * bound.longestMillisBelow.nanoseconds := by
    induction count with
    | zero => exact (Nat.zero_mul _).symm
    | succ count inductionHypothesis =>
        rw [Nat.succ_mul, ← inductionHypothesis]
        exact Nat.add_comm _ _
  exact ⟨drawn, (Nat.zero_add _).trans drawn⟩

theorem overloadedTimes_overloaded {count index : Nat} (below : index < count) :
    patientExecutor.Overloaded (overloadedTimes count index) := by
  rw [overloadedTimes, if_pos below]
  exact ⟨rfl, by decide⟩

/-- Once the source was drawn from, the delays of a call do not add up. -/
theorem execute_after_late_draw :
    ((Surroundings.inTurn (overloadedTimes 1001) lateJitter).run
      (patientExecutor.execute .standard) (0, true)).1 = none := by
  refine Executor.attempt_breaks_down 0 .zero _ 1001 (by decide) ?_ (by decide)
    (.inr ?_)
  · intro index below
    rw [Surroundings.inTurn_outcomeAt, Nat.zero_add]
    exact overloadedTimes_overloaded below
  · rw [Surroundings.inTurn_delays, Duration.Represented,
      Duration.sum_cons_nanoseconds, (lateJitter_sum _ _).1]
    decide

/-- A source that keeps the bound of a policy, and two calls at once that share
it: the second succeeds alone, and breaks down if the first draws before it. -/
theorem Pool.shared_delays_overflow :
    let bound := patientExecutor.jitterBound
    let outcomes := fun second => overloadedTimes (if second then 1001 else 1)
    (∀ drawn,
        (lateJitter bound drawn).1.nanoseconds < bound.nanoseconds) ∧
      (∃ delay, ((Surroundings.inTurn (outcomes true) lateJitter).run
          (patientExecutor.execute .standard) (0, false)).1 =
        some (.ok ⟨Executor.thirdAnswer, 1002, delay⟩)) ∧
      ∃ turns, (((Pool.start patientExecutor (fun _ => .standard) false).after
        outcomes lateJitter turns).call true).ending? = some none := by
  intro bound outcomes
  have second : outcomes true = overloadedTimes 1001 := rfl
  refine ⟨by decide, ?_, ?_⟩
  · have alone := (Executor.execute_by_rounds patientExecutor .standard
      (overloadedTimes 1001) lateJitter false (by decide) (Nat.le_refl 1001)
      (fun _ below => overloadedTimes_overloaded below)
      (fun overloaded => nomatch overloaded.1) (by
        rw [Duration.Represented, (lateJitter_sum _ _).2]
        decide)).1
    rw [second]
    exact ⟨_, alone⟩
  · let pool : Pool Bool Bool :=
      .start patientExecutor (fun _ => .standard) false
    have drawn : ((Surroundings.inTurn (outcomes false) lateJitter).run
        (pool.call false).rest (0, false)).2.2 = true := by decide +kernel
    obtain ⟨first, _, source, still⟩ :=
      pool.exists_turns_to_end outcomes lateJitter false
    obtain ⟨sameCall, sameReceived⟩ := still true (by decide)
    obtain ⟨rest, ended, _⟩ :=
      (pool.after outcomes lateJitter first).exists_turns_to_end outcomes
        lateJitter true
    rw [sameCall, sameReceived, source.trans drawn, second] at ended
    refine ⟨first ++ rest, ?_⟩
    rw [after_append, ended]
    exact congrArg some execute_after_late_draw

end Parley.Session
