import Parley.Session.Program

/-!
Contract: what a run of a program did.

A trace holds every effect that a run performed, in order and with its answer.
Runs and traces of a composed program are put together from those of its parts.

Owns: `Exchange` and its readings, `Program.trace`, and the laws of `bind`,
`andThen` and `loggedAll`.

Does not own: who answers the effects.
-/

namespace Parley.Session

open Parley.Provider (Failure)
open Parley.Text (Bytes)
open Parley.Time (Duration)
open Parley.Wire (Request)

/-- An effect and how it was answered. -/
structure Exchange where
  effect : Effect
  answer : effect.Answer

namespace Exchange

/-- An entry that was written to the log. -/
def logged (entry : Log.Entry) : Exchange :=
  ⟨.log entry, ()⟩

/-- The key that a connection was opened with. -/
def connected? : Exchange → Option String
  | ⟨.connect apiKey, _⟩ => some apiKey
  | _ => none

/-- The request of a single call. -/
def invoked? : Exchange → Option Request
  | ⟨.invoke request, _⟩ => some request
  | _ => none

/-- The request of a call, be its answer single or streamed. -/
def requested? : Exchange → Option Request
  | ⟨.invoke request, _⟩ => some request
  | ⟨.openStream request, _⟩ => some request
  | _ => none

/-- The bound of a random delay, and the delay that was drawn. -/
def drawn? : Exchange → Option (Duration × Duration)
  | ⟨.drawJitter bound, delay⟩ => some (bound, delay)
  | _ => none

/-- The span of a wait between two attempts. -/
def slept? : Exchange → Option Duration
  | ⟨.sleep span, _⟩ => some span
  | _ => none

/-- A chunk that was handed to the sink, and whether the sink took it. -/
def delivered? : Exchange → Option (Bytes × Except String Unit)
  | ⟨.deliver chunk, taken⟩ => some (chunk, taken)
  | _ => none

/-- Whether the next item of a stream, or its end, was waited for. -/
def awaitsItem : Exchange → Bool
  | ⟨.awaitItem, _⟩ => true
  | _ => false

/-! ## Readings that pass over the log -/

theorem filterMap_logged {α : Type} (read : Exchange → Option α)
    (silent : ∀ entry, read (logged entry) = none)
    (entries : List Log.Entry) :
    (entries.map logged).filterMap read = [] := by
  rw [List.filterMap_map, List.filterMap_eq_nil_iff]
  intro entry _
  exact silent entry

theorem countP_logged (test : Exchange → Bool)
    (silent : ∀ entry, test (logged entry) = false)
    (entries : List Log.Entry) : (entries.map logged).countP test = 0 := by
  rw [List.countP_map, List.countP_eq_zero]
  intro entry _
  exact Bool.eq_false_iff.mp (silent entry)

end Exchange

namespace Program

variable {σ α β γ : Type} (handler : Handler σ)

/-- What a run performs. -/
def trace : Program α → σ → List Exchange
  | .done _, _ => []
  | .breakdown, _ => []
  | .perform effect next, state =>
      let (answer, after) := handler effect state
      ⟨effect, answer⟩ :: (next answer).trace after

/-! ## One step -/

@[simp] theorem run_done (value : α) (state : σ) :
    (done value).run handler state = (some value, state) := rfl

@[simp] theorem run_breakdown (state : σ) :
    (breakdown : Program α).run handler state = (none, state) := rfl

@[simp] theorem run_perform (effect : Effect)
    (next : effect.Answer → Program α) (state : σ) :
    (perform effect next).run handler state =
      (next (handler effect state).1).run handler (handler effect state).2 :=
  rfl

@[simp] theorem trace_done (value : α) (state : σ) :
    (done value).trace handler state = [] := rfl

@[simp] theorem trace_breakdown (state : σ) :
    (breakdown : Program α).trace handler state = [] := rfl

@[simp] theorem trace_perform (effect : Effect)
    (next : effect.Answer → Program α) (state : σ) :
    (perform effect next).trace handler state =
      ⟨effect, (handler effect state).1⟩ ::
        (next (handler effect state).1).trace handler
          (handler effect state).2 :=
  rfl

/-- What holds of every answer of the surroundings holds of what a run
performs. -/
theorem of_mem_trace {handler : Handler σ} (holds : Exchange → Prop)
    (answers : ∀ effect state, holds ⟨effect, (handler effect state).1⟩)
    {program : Program α} {state : σ} {exchange : Exchange}
    (member : exchange ∈ program.trace handler state) : holds exchange := by
  induction program generalizing state with
  | done value => exact nomatch member
  | breakdown => exact nomatch member
  | perform effect next inductionHypothesis =>
      rw [trace_perform] at member
      rcases List.mem_cons.mp member with isFirst | isLater
      · rw [isFirst]
        exact answers effect state
      · exact inductionHypothesis _ isLater

/-! ## Composition -/

private theorem run_bind (program : Program α) (next : α → Program β)
    (state : σ) :
    (program.bind next).run handler state =
      match program.run handler state with
      | (some value, after) => (next value).run handler after
      | (none, after) => (none, after) := by
  induction program generalizing state with
  | done value => rfl
  | breakdown => rfl
  | perform effect resume inductionHypothesis =>
      exact inductionHypothesis _ _

private theorem trace_bind (program : Program α) (next : α → Program β)
    (state : σ) :
    (program.bind next).trace handler state =
      program.trace handler state ++
        match program.run handler state with
        | (some value, after) => (next value).trace handler after
        | (none, _) => [] := by
  induction program generalizing state with
  | done value => rfl
  | breakdown => rfl
  | perform effect resume inductionHypothesis =>
      rw [bind, trace_perform, trace_perform, run_perform, List.cons_append,
        inductionHypothesis]

theorem bind_assoc (program : Program α) (first : α → Program β)
    (second : β → Program γ) :
    (program.bind first).bind second =
      program.bind fun value => (first value).bind second := by
  induction program with
  | done value => rfl
  | breakdown => rfl
  | perform effect resume inductionHypothesis =>
      simp only [bind, inductionHypothesis]

private theorem bind_done (program : Program α) :
    program.bind done = program := by
  induction program with
  | done value => rfl
  | breakdown => rfl
  | perform effect resume inductionHypothesis =>
      simp only [bind, inductionHypothesis]

/-! ## Composition of programs that may fail -/

section AndThen

variable (program : Program (Except Failure α))
  (next : α → Program (Except Failure β))

theorem andThen_assoc (last : β → Program (Except Failure γ)) :
    (program.andThen next).andThen last =
      program.andThen fun value => (next value).andThen last := by
  unfold andThen
  rw [bind_assoc]
  congr 1
  funext result
  cases result with
  | error failure => rfl
  | ok value => rfl

theorem andThen_done :
    (program.andThen fun value => done (.ok value)) = program := by
  unfold andThen
  conv => rhs; rw [← bind_done program]
  congr 1
  funext result
  cases result with
  | error failure => rfl
  | ok value => rfl

theorem run_andThen (state : σ) :
    (program.andThen next).run handler state =
      match program.run handler state with
      | (some (.ok value), after) => (next value).run handler after
      | (some (.error failure), after) => (some (.error failure), after)
      | (none, after) => (none, after) := by
  rw [andThen, run_bind]
  rcases program.run handler state with ⟨_ | _ | _, _⟩ <;> rfl

theorem trace_andThen (state : σ) :
    (program.andThen next).trace handler state =
      program.trace handler state ++
        match program.run handler state with
        | (some (.ok value), after) => (next value).trace handler after
        | _ => [] := by
  rw [andThen, trace_bind]
  rcases program.run handler state with ⟨_ | _ | _, _⟩ <;> rfl

/-- A last step that only puts a result together performs nothing. -/
theorem trace_andThen_ok (finish : α → β) (state : σ) :
    (program.andThen fun value => done (.ok (finish value))).trace handler
      state = program.trace handler state := by
  rw [trace_andThen]
  rcases program.run handler state with ⟨_ | _ | _, _⟩ <;>
    exact List.append_nil _

/-- A last step that only puts a result together does not fail. -/
theorem run_andThen_ok_error (finish : α → β) (state : σ) (failure : Failure) :
    ((program.andThen fun value => done (.ok (finish value))).run handler
        state).1 = some (.error failure) ↔
      (program.run handler state).1 = some (.error failure) := by
  rw [run_andThen]
  rcases program.run handler state with ⟨_ | other | value, after⟩
  · constructor <;> exact nofun
  · dsimp only
    rw [Option.some_inj, Option.some_inj, Except.error.injEq,
      Except.error.injEq]
  · constructor <;> exact nofun

/-- A last step that only puts a result together changes nothing else. -/
theorem run_andThen_ok (finish : α → β) (state : σ) :
    (program.andThen fun value => done (.ok (finish value))).run handler
        state =
      ((program.run handler state).1.map (·.map finish),
        (program.run handler state).2) := by
  rw [run_andThen]
  rcases program.run handler state with ⟨_ | _ | value, after⟩ <;> rfl

end AndThen

/-! ## The log -/

/-- What is written to the log comes first and changes no result but through the
state that it leaves. -/
theorem loggedAll_passes (entries : List Log.Entry) (program : Program α)
    (state : σ) :
    ∃ after,
      (loggedAll entries program).run handler state =
          program.run handler after ∧
        (loggedAll entries program).trace handler state =
          entries.map .logged ++ program.trace handler after := by
  induction entries generalizing state with
  | nil => exact ⟨state, rfl, rfl⟩
  | cons entry entries inductionHypothesis =>
      obtain ⟨after, result, performed⟩ :=
        inductionHypothesis (handler (.log entry) state).2
      exact ⟨after, result, congrArg (Exchange.logged entry :: ·) performed⟩

end Program

end Parley.Session
