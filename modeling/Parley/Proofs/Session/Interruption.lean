import Parley.Proofs.Session.Trace

/-!
Contract: programs whose call may be cancelled at any moment.

A program performs an effect in steps of its own: the effect is started, its
answer arrives, and the program receives it. The call may be cancelled before and
after each of these steps. What waits looks for the cancellation first, when it
would start and when it would receive an answer that has arrived; a wait that
finds it is abandoned. What does not wait is not stopped by it.

Owns: `Stage`, `Standing`, `Event`, `Step` and `Run`, what holds of every program
after a cancellation, and the runs of a program with another last step.
-/

namespace Parley.Session

open Parley.Provider (Failure)

/-- The answer that tells a wait of the cancellation; other effects have none. -/
def Effect.cancelledAnswer? : (effect : Effect) → Option effect.Answer
  | .invoke _ => some .cancelled
  | .openStream _ => some .cancelled
  | .awaitItem => some .cancelled
  | .sleep _ => some .cancelled
  | .connect _ => none
  | .deliver _ => none
  | .drawJitter _ => none
  | .log _ => none

/-- Whether an effect waits. -/
def Effect.Waits (effect : Effect) : Prop :=
  effect.cancelledAnswer? ≠ none

/-- Whether an answer is one of the party that was asked. -/
def Exchange.Genuine (exchange : Exchange) : Prop :=
  exchange.effect.cancelledAnswer? ≠ some exchange.answer

/-- Where a program stands: it goes on by itself, or an effect of it was started
whose answer may have arrived. -/
inductive Stage (α : Type) where
  | running (program : Program α)
  | pending (effect : Effect) (next : effect.Answer → Program α)
      (arrived : Option effect.Answer)

/-- A program under way, and whether its call was cancelled. -/
structure Standing (α : Type) where
  cancelled : Bool
  stage : Stage α

/-- What happens in a step. -/
inductive Event where
  | cancel
  | start (effect : Effect)
  | arrive (exchange : Exchange)
  | receive (exchange : Exchange)
  | abandon (effect : Effect)

variable {α : Type}

/-- The steps of a program whose call may be cancelled. -/
inductive Step : Standing α → Event → Standing α → Prop where
  | cancel (cancelled : Bool) (stage : Stage α) :
      Step ⟨cancelled, stage⟩ .cancel ⟨true, stage⟩
  | start (cancelled : Bool) (effect : Effect)
      (next : effect.Answer → Program α)
      (allowed : effect.Waits → cancelled = false) :
      Step ⟨cancelled, .running (.perform effect next)⟩ (.start effect)
        ⟨cancelled, .pending effect next none⟩
  | arrive (cancelled : Bool) (effect : Effect)
      (next : effect.Answer → Program α) (answer : effect.Answer)
      (genuine : Exchange.Genuine ⟨effect, answer⟩) :
      Step ⟨cancelled, .pending effect next none⟩ (.arrive ⟨effect, answer⟩)
        ⟨cancelled, .pending effect next (some answer)⟩
  | receive (cancelled : Bool) (effect : Effect)
      (next : effect.Answer → Program α) (answer : effect.Answer)
      (allowed : effect.Waits → cancelled = false) :
      Step ⟨cancelled, .pending effect next (some answer)⟩
        (.receive ⟨effect, answer⟩) ⟨cancelled, .running (next answer)⟩
  | abandonAtOnce (effect : Effect) (next : effect.Answer → Program α)
      (answer : effect.Answer)
      (waits : effect.cancelledAnswer? = some answer) :
      Step ⟨true, .running (.perform effect next)⟩ (.abandon effect)
        ⟨true, .running (next answer)⟩
  | abandon (effect : Effect) (next : effect.Answer → Program α)
      (arrived : Option effect.Answer) (answer : effect.Answer)
      (waits : effect.cancelledAnswer? = some answer) :
      Step ⟨true, .pending effect next arrived⟩ (.abandon effect)
        ⟨true, .running (next answer)⟩

/-- Any number of steps. -/
inductive Run : Standing α → List Event → Standing α → Prop where
  | nil (standing : Standing α) : Run standing [] standing
  | cons {first middle last : Standing α} {event : Event}
      {events : List Event} (step : Step first event middle)
      (rest : Run middle events last) : Run first (event :: events) last

/-- A program that stands before a wait or in it. -/
inductive Stage.WaitsFor (effect : Effect) : Stage α → Prop where
  | asked (next : effect.Answer → Program α) (waits : effect.Waits) :
      WaitsFor effect (.running (.perform effect next))
  | started (next : effect.Answer → Program α)
      (arrived : Option effect.Answer) (waits : effect.Waits) :
      WaitsFor effect (.pending effect next arrived)

namespace Run

variable {first last : Standing α}

theorem of_append {before after : List Event}
    (run : Run first (before ++ after) last) :
    ∃ middle, Run first before middle ∧ Run middle after last := by
  induction before generalizing first with
  | nil => exact ⟨first, .nil first, run⟩
  | cons event before inductionHypothesis =>
      cases run with
      | cons step rest =>
          obtain ⟨middle, front, back⟩ := inductionHypothesis rest
          exact ⟨middle, .cons step front, back⟩

/-- A run that is cancelled somewhere goes on with the call cancelled. -/
theorem of_cancel {before after : List Event}
    (run : Run first (before ++ .cancel :: after) last) :
    ∃ stage cancelled, Run first before ⟨cancelled, stage⟩ ∧
      Run ⟨true, stage⟩ after last := by
  obtain ⟨middle, front, back⟩ := of_append run
  cases back with
  | cons step rest =>
      cases step with
      | cancel cancelled stage => exact ⟨stage, cancelled, front, rest⟩

end Run

/-! ## After a cancellation -/

theorem Step.remains_cancelled {first last : Standing α} {event : Event}
    (step : Step first event last) (cancelled : first.cancelled = true) :
    last.cancelled = true := by
  cases step <;> first | exact cancelled | rfl

theorem Run.remains_cancelled {first last : Standing α} {events : List Event}
    (run : Run first events last) (cancelled : first.cancelled = true) :
    last.cancelled = true := by
  induction run with
  | nil standing => exact cancelled
  | cons step rest inductionHypothesis =>
      exact inductionHypothesis (step.remains_cancelled cancelled)

/-- No wait is started or passed once the call is cancelled. -/
theorem Run.no_wait_proceeds {first last : Standing α} {events : List Event}
    (run : Run first events last) (cancelled : first.cancelled = true)
    {effect : Effect} (waits : effect.Waits) :
    .start effect ∉ events ∧ ∀ answer, .receive ⟨effect, answer⟩ ∉ events := by
  induction run with
  | nil standing => exact ⟨List.not_mem_nil, fun _ => List.not_mem_nil⟩
  | cons step rest inductionHypothesis =>
      obtain ⟨noStart, noReceipt⟩ :=
        inductionHypothesis (step.remains_cancelled cancelled)
      constructor
      · intro member
        rcases List.mem_cons.mp member with isFirst | isLater
        · subst isFirst
          cases step with
          | start flag _ next allowed =>
              exact Bool.false_ne_true
                ((allowed waits).symm.trans cancelled)
        · exact noStart isLater
      · intro answer member
        rcases List.mem_cons.mp member with isFirst | isLater
        · subst isFirst
          cases step with
          | receive flag _ next _ allowed =>
              exact Bool.false_ne_true
                ((allowed waits).symm.trans cancelled)
        · exact noReceipt answer isLater

/-! ## A last step that only puts a result together -/

section Finish

variable {α β : Type} {finish : α → β}

/-- What is left of a program with a last step that only puts its result
together. -/
def Stage.finishedBy (finish : α → β) :
    Stage (Except Failure α) → Stage (Except Failure β)
  | .running program =>
      .running (program.andThen fun value => .done (.ok (finish value)))
  | .pending effect next arrived =>
      .pending effect
        (fun answer =>
          (next answer).andThen fun value => .done (.ok (finish value)))
        arrived

/-- A program under way with a last step that only puts its result together. -/
def Standing.finishedBy (finish : α → β)
    (standing : Standing (Except Failure α)) :
    Standing (Except Failure β) :=
  ⟨standing.cancelled, standing.stage.finishedBy finish⟩

theorem Step.finishedBy {first last : Standing (Except Failure α)}
    {event : Event} (step : Step first event last) :
    Step (first.finishedBy finish) event (last.finishedBy finish) := by
  cases step with
  | cancel cancelled stage => exact .cancel _ _
  | start cancelled effect next allowed => exact .start _ _ _ allowed
  | arrive cancelled effect next answer genuine =>
      exact .arrive _ _ _ _ genuine
  | receive cancelled effect next answer allowed =>
      exact .receive _ _ _ _ allowed
  | abandonAtOnce effect next answer waits => exact .abandonAtOnce _ _ _ waits
  | abandon effect next arrived answer waits => exact .abandon _ _ _ _ waits

/-- The last step adds no step of its own. -/
theorem Step.of_finishedBy {first : Standing (Except Failure α)}
    {event : Event} {last : Standing (Except Failure β)}
    (step : Step (first.finishedBy finish) event last) :
    ∃ reached, last = reached.finishedBy finish ∧ Step first event reached := by
  obtain ⟨cancelled, stage⟩ := first
  cases stage with
  | running program =>
      cases program with
      | done result =>
          cases result <;>
            (cases step; exact ⟨⟨true, _⟩, rfl, .cancel _ _⟩)
      | breakdown =>
          cases step
          exact ⟨⟨true, _⟩, rfl, .cancel _ _⟩
      | perform effect next =>
          cases step with
          | cancel => exact ⟨⟨true, _⟩, rfl, .cancel _ _⟩
          | start _ _ _ allowed =>
              exact ⟨⟨cancelled, _⟩, rfl, .start _ _ next allowed⟩
          | abandonAtOnce _ _ answer waits =>
              exact ⟨⟨true, _⟩, rfl, .abandonAtOnce _ next answer waits⟩
  | pending effect next arrived =>
      cases step with
      | cancel => exact ⟨⟨true, _⟩, rfl, .cancel _ _⟩
      | arrive _ _ _ answer genuine =>
          exact ⟨⟨cancelled, _⟩, rfl, .arrive _ _ next answer genuine⟩
      | receive _ _ _ answer allowed =>
          exact ⟨⟨cancelled, _⟩, rfl, .receive _ _ next answer allowed⟩
      | abandon _ _ _ answer waits =>
          exact ⟨⟨true, _⟩, rfl, .abandon _ next _ answer waits⟩

/-- A program with a last step that only puts its result together makes the runs
of the program itself. -/
theorem Run.finishedBy_iff {first : Standing (Except Failure α)}
    {events : List Event} {last : Standing (Except Failure β)} :
    Run (first.finishedBy finish) events last ↔
      ∃ reached, last = reached.finishedBy finish ∧
        Run first events reached := by
  induction events generalizing first with
  | nil =>
      constructor
      · intro run
        cases run
        exact ⟨first, rfl, .nil first⟩
      · rintro ⟨reached, rfl, run⟩
        cases run
        exact .nil _
  | cons event events inductionHypothesis =>
      constructor
      · intro run
        cases run with
        | cons step rest =>
            obtain ⟨middle, rfl, taken⟩ := step.of_finishedBy
            obtain ⟨reached, isLast, run⟩ := inductionHypothesis.mp rest
            exact ⟨reached, isLast, .cons taken run⟩
      · rintro ⟨reached, isLast, run⟩
        cases run with
        | cons step rest =>
            exact .cons step.finishedBy
              (inductionHypothesis.mpr ⟨reached, isLast, rest⟩)

/-- The same happens in the runs of both, be they at their end or not. -/
theorem Run.finishedBy_events_iff {program : Program (Except Failure α)}
    {events : List Event} :
    (∃ last, Run ⟨false, .running
        (program.andThen fun value => .done (.ok (finish value)))⟩
      events last) ↔ ∃ last, Run ⟨false, .running program⟩ events last := by
  show (∃ last, Run (Standing.finishedBy finish ⟨false, .running program⟩)
    events last) ↔ _
  constructor
  · rintro ⟨last, run⟩
    obtain ⟨reached, _, run⟩ := Run.finishedBy_iff.mp run
    exact ⟨reached, run⟩
  · rintro ⟨reached, run⟩
    exact ⟨_, Run.finishedBy_iff.mpr ⟨reached, rfl, run⟩⟩

/-- A program under way that ended with a result. -/
def Standing.endedWith (cancelled : Bool) (result : Except Failure α) :
    Standing (Except Failure α) :=
  ⟨cancelled, .running (.done result)⟩

theorem Standing.finishedBy_eq_endedWith_iff
    {standing : Standing (Except Failure α)} {cancelled : Bool}
    {result : Except Failure β} :
    standing.finishedBy finish = .endedWith cancelled result ↔
      ∃ outcome, standing = .endedWith cancelled outcome ∧
        outcome.map finish = result := by
  constructor
  · intro same
    obtain ⟨flag, _ | _⟩ := standing
    · rename_i program
      obtain ⟨isFlag, isStage⟩ := Standing.mk.inj same
      have isDone := Stage.running.inj isStage
      rcases program with (failure | value) | _ | _
      · exact ⟨.error failure, congrArg (Standing.mk · _) isFlag,
          Program.done.inj isDone⟩
      · exact ⟨.ok value, congrArg (Standing.mk · _) isFlag,
          Program.done.inj isDone⟩
      · cases isDone
      · cases isDone
    · cases (Standing.mk.inj same).2
  · rintro ⟨failure | value, rfl, rfl⟩ <;> rfl

/-- It ends exactly as the program does, with what it puts together of the value
that the program ends with. -/
theorem Run.finishedBy_ended_iff {program : Program (Except Failure α)}
    {events : List Event} {cancelled : Bool} {result : Except Failure β} :
    Run ⟨false, .running
          (program.andThen fun value => .done (.ok (finish value)))⟩ events
        (.endedWith cancelled result) ↔
      ∃ outcome,
        Run ⟨false, .running program⟩ events (.endedWith cancelled outcome) ∧
          outcome.map finish = result := by
  show Run (Standing.finishedBy finish ⟨false, .running program⟩) _ _ ↔ _
  rw [Run.finishedBy_iff]
  constructor
  · rintro ⟨reached, isLast, run⟩
    obtain ⟨outcome, rfl, same⟩ :=
      Standing.finishedBy_eq_endedWith_iff.mp isLast.symm
    exact ⟨outcome, run, same⟩
  · rintro ⟨outcome, run, same⟩
    exact ⟨_, (Standing.finishedBy_eq_endedWith_iff.mpr
      ⟨outcome, rfl, same⟩).symm, run⟩

end Finish

end Parley.Session
