import Parley.Proofs.Session.Discipline

/-!
Contract: what a client does once its call is cancelled.

A client that is cancelled starts no call, waits for no item and makes no retry.
It hands over at most the chunk that it took before, and ends with the
cancellation at the next wait. It succeeds only if every outcome that it needed
was received before.

Owns: `Stage.Disciplined`, the ledger along runs, and the cancellation safety of
`Client.generate`.
-/

namespace Parley.Session

open Parley.Chat (Generation)
open Parley.Provider (CallOptions Failure)
open Parley.Text (Bytes)

/-- The chunk that is handed to the sink in a step. -/
def Event.handed? : Event → Option Bytes
  | .start effect => effect.chunk?
  | _ => none

/-- The chunks that are handed to the sink, one after the other. -/
def handed (events : List Event) : List Bytes :=
  events.filterMap Event.handed?

/-- Whether nothing but the log is at work in a step. -/
def Event.isIdle : Event → Bool
  | .cancel => true
  | .start effect => effect.isLog
  | .arrive exchange => exchange.effect.isLog
  | .receive exchange => exchange.effect.isLog
  | .abandon _ => false

/-- Whether what is left of a program keeps to a ledger. -/
inductive Stage.Disciplined (streaming : Bool) (goal : Nat) (ledger : Ledger)
    {α : Type} : Stage (Except Failure α) → Prop where
  | running {program : Program (Except Failure α)}
      (disciplined : Session.Disciplined streaming goal ledger program) :
      Disciplined streaming goal ledger (.running program)
  | pending {effect : Effect}
      {next : effect.Answer → Program (Except Failure α)}
      {arrived : Option effect.Answer}
      (noted : (ledger.due || !effect.isLog) = ledger.due)
      (genuine : ∀ answer, arrived = some answer →
        Exchange.Genuine ⟨effect, answer⟩)
      (stops : ∀ answer, effect.cancelledAnswer? = some answer →
        next answer = .done (.error .cancelled))
      (goesOn : ∀ answer, Exchange.Genuine ⟨effect, answer⟩ →
        Session.Disciplined streaming goal
          (ledger.receive streaming ⟨effect, answer⟩) (next answer)) :
      Disciplined streaming goal ledger (.pending effect next arrived)

section Runs

variable {streaming : Bool} {goal : Nat} {ledger : Ledger} {α : Type}
  {first last : Standing (Except Failure α)} {event : Event}
  {events : List Event}

/-! ## What is left of a disciplined program -/

theorem Stage.Disciplined.of_perform {effect : Effect}
    {next : effect.Answer → Program (Except Failure α)}
    (keeps : Stage.Disciplined streaming goal ledger
      (.running (.perform effect next))) :
    (∀ chunk, effect.chunk? = some chunk → ledger.inHand = some chunk) ∧
      (∀ answer, effect.cancelledAnswer? = some answer →
        next answer = .done (.error .cancelled)) ∧
      ∀ answer, Exchange.Genuine ⟨effect, answer⟩ →
        Session.Disciplined streaming goal
          ((ledger.start effect).receive streaming ⟨effect, answer⟩)
          (next answer) := by
  cases keeps with
  | running disciplined =>
      cases disciplined with
      | perform _ _ _ taken stops goesOn => exact ⟨taken, stops, goesOn⟩

theorem Stage.Disciplined.of_pending {effect : Effect}
    {next : effect.Answer → Program (Except Failure α)}
    {arrived : Option effect.Answer}
    (keeps : Stage.Disciplined streaming goal ledger
      (.pending effect next arrived)) :
    (ledger.due || !effect.isLog) = ledger.due ∧
      (∀ answer, arrived = some answer →
        Exchange.Genuine ⟨effect, answer⟩) ∧
      (∀ answer, effect.cancelledAnswer? = some answer →
        next answer = .done (.error .cancelled)) ∧
      ∀ answer, Exchange.Genuine ⟨effect, answer⟩ →
        Session.Disciplined streaming goal
          (ledger.receive streaming ⟨effect, answer⟩) (next answer) := by
  cases keeps with
  | pending noted genuine stops goesOn =>
      exact ⟨noted, genuine, stops, goesOn⟩

/-! ## The ledger along a run -/

/-- A disciplined program remains so, by the ledger after the step. -/
theorem Step.disciplined (step : Step first event last)
    (keeps : first.stage.Disciplined streaming goal ledger) :
    last.stage.Disciplined streaming goal (ledger.after streaming event) := by
  cases step with
  | cancel cancelled stage => exact keeps
  | start cancelled effect next allowed =>
      obtain ⟨_, stops, goesOn⟩ := keeps.of_perform
      refine .pending ?_ (fun answer none => nomatch none) stops goesOn
      exact (Bool.or_assoc _ _ _).trans
        (congrArg (ledger.due || ·) (Bool.or_self _))
  | arrive cancelled effect next answer genuine =>
      obtain ⟨noted, _, stops, goesOn⟩ := keeps.of_pending
      have unchanged :
          ledger.after streaming (.arrive ⟨effect, answer⟩) = ledger := by
        simp only [Ledger.after, noted]
      rw [unchanged]
      refine .pending noted ?_ stops goesOn
      rintro _ ⟨⟩
      exact genuine
  | receive cancelled effect next answer allowed =>
      obtain ⟨_, genuine, _, goesOn⟩ := keeps.of_pending
      exact .running (goesOn answer (genuine answer rfl))
  | abandonAtOnce effect next answer waits =>
      obtain ⟨_, stops, _⟩ := keeps.of_perform
      rw [stops answer waits]
      exact .running (.failed _ _)
  | abandon effect next arrived answer waits =>
      obtain ⟨_, _, stops, _⟩ := keeps.of_pending
      rw [stops answer waits]
      exact .running (.failed _ _)

theorem Run.disciplined (run : Run first events last)
    (keeps : first.stage.Disciplined streaming goal ledger) :
    last.stage.Disciplined streaming goal
      (events.foldl (Ledger.after streaming) ledger) := by
  induction run generalizing ledger with
  | nil standing => exact keeps
  | cons step rest inductionHypothesis =>
      exact inductionHypothesis (step.disciplined keeps)

/-! ## Once a call is cancelled -/

/-- What brings an outcome is a wait. -/
theorem Ledger.waits_of_concludes {exchange : Exchange}
    (concludes : ledger.concludes streaming exchange = true) :
    exchange.effect.Waits := by
  obtain ⟨effect, answer⟩ := exchange
  cases effect with
  | invoke request => exact nofun
  | awaitItem => exact nofun
  | connect | openStream | deliver | drawJitter | sleep | log =>
      cases concludes

/-- A step of a cancelled call receives the answer of no wait. -/
theorem Step.no_wait_received {exchange : Exchange}
    (step : Step first (.receive exchange) last)
    (cancelled : first.cancelled = true) : ¬ exchange.effect.Waits := by
  intro waits
  cases step with
  | receive flag effect next answer allowed =>
      exact Bool.false_ne_true ((allowed waits).symm.trans cancelled)

/-- What the sink is handed by a cancelled call was in hand before. -/
theorem Step.handed_from_hand (step : Step first event last)
    (cancelled : first.cancelled = true)
    (keeps : first.stage.Disciplined streaming goal ledger) :
    event.handed?.toList ++ (ledger.after streaming event).inHand.toList =
      ledger.inHand.toList := by
  cases event with
  | cancel => rfl
  | arrive exchange => rfl
  | abandon effect => rfl
  | receive exchange =>
      have notItem : exchange.awaitsItem = false := by
        have noWait := step.no_wait_received cancelled
        obtain ⟨effect, answer⟩ := exchange
        cases effect <;> first | rfl | exact absurd nofun noWait
      simp only [Event.handed?, Ledger.after, Ledger.receive, notItem,
        Bool.false_eq_true, if_false]
      rfl
  | start effect =>
      cases step with
      | start flag _ next allowed =>
          obtain ⟨taken, _, _⟩ := keeps.of_perform
          cases chunk : effect.chunk? with
          | none =>
              simp only [Event.handed?, Ledger.after, Ledger.start, chunk,
                Option.isSome_none, Bool.false_eq_true, if_false]
              rfl
          | some bytes =>
              simp only [Event.handed?, Ledger.after, Ledger.start, chunk,
                taken bytes chunk, Option.isSome_some, if_true]
              rfl

theorem Run.handed_from_hand (run : Run first events last)
    (cancelled : first.cancelled = true)
    (keeps : first.stage.Disciplined streaming goal ledger) :
    handed events <+: ledger.inHand.toList := by
  induction run generalizing ledger with
  | nil standing => exact List.nil_prefix
  | @cons _ _ _ event events step rest inductionHypothesis =>
      obtain ⟨remaining, later⟩ := inductionHypothesis
        (step.remains_cancelled cancelled) (step.disciplined keeps)
      refine ⟨remaining, ?_⟩
      rw [← step.handed_from_hand cancelled keeps, ← later,
        ← List.append_assoc]
      congr 1
      unfold handed
      rw [List.filterMap_cons]
      cases event.handed? with
      | none => rfl
      | some chunk => rfl

/-- A cancelled call receives no further outcome. -/
theorem Run.no_outcome_received (run : Run first events last)
    (cancelled : first.cancelled = true) :
    (events.foldl (Ledger.after streaming) ledger).outcomes =
      ledger.outcomes := by
  induction run generalizing ledger with
  | nil standing => rfl
  | @cons _ _ _ event events step rest inductionHypothesis =>
      rw [List.foldl_cons,
        inductionHypothesis (step.remains_cancelled cancelled)]
      cases event with
      | cancel => rfl
      | start effect => rfl
      | arrive exchange => rfl
      | abandon effect => rfl
      | receive exchange =>
          cases concludes : ledger.concludes streaming exchange with
          | false => simp only [Ledger.after, Ledger.receive, concludes]; rfl
          | true =>
              exact absurd (Ledger.waits_of_concludes concludes)
                (step.no_wait_received cancelled)

/-! ## Waits of a cancelled call -/

/-- A call that was ended by its cancellation. -/
def Standing.ended : Standing (Except Failure α) :=
  ⟨true, .running (.done (.error .cancelled))⟩

/-- A wait may be abandoned, and the call with it. -/
theorem Stage.Disciplined.abandons {stage : Stage (Except Failure α)}
    {effect : Effect}
    (keeps : stage.Disciplined streaming goal ledger)
    (waiting : stage.WaitsFor effect) :
    Step ⟨true, stage⟩ (.abandon effect) .ended := by
  cases waiting with
  | asked next waits =>
      obtain ⟨answer, told⟩ := Option.ne_none_iff_exists'.mp waits
      obtain ⟨_, stops, _⟩ := keeps.of_perform
      have step := Step.abandonAtOnce effect next answer told
      rw [stops answer told] at step
      exact step
  | started next arrived waits =>
      obtain ⟨answer, told⟩ := Option.ne_none_iff_exists'.mp waits
      obtain ⟨_, _, stops, _⟩ := keeps.of_pending
      have step := Step.abandon effect next arrived answer told
      rw [stops answer told] at step
      exact step

/-- A cancelled call remains in its wait until it abandons it. -/
theorem Step.waits_or_ends {effect : Effect}
    (step : Step first event last) (cancelled : first.cancelled = true)
    (keeps : first.stage.Disciplined streaming goal ledger)
    (waiting : first.stage.WaitsFor effect) :
    last.stage.WaitsFor effect ∨ last = .ended := by
  cases step with
  | cancel flag stage => exact .inl waiting
  | start flag _ next allowed =>
      cases waiting with
      | asked _ waits =>
          exact absurd ((allowed waits).symm.trans cancelled)
            Bool.false_ne_true
  | arrive flag _ next answer genuine =>
      cases waiting with
      | started _ _ waits => exact .inl (.started _ _ waits)
  | receive flag _ next answer allowed =>
      cases waiting with
      | started _ _ waits =>
          exact absurd ((allowed waits).symm.trans cancelled)
            Bool.false_ne_true
  | abandonAtOnce _ next answer waits =>
      obtain ⟨_, stops, _⟩ := keeps.of_perform
      rw [stops answer waits]
      exact .inr rfl
  | abandon _ next arrived answer waits =>
      obtain ⟨_, _, stops, _⟩ := keeps.of_pending
      rw [stops answer waits]
      exact .inr rfl

private theorem Run.remains_ended (run : Run first events last)
    (ended : first = .ended) : last = .ended := by
  induction run with
  | nil standing => exact ended
  | cons step rest inductionHypothesis =>
      subst ended
      cases step with
      | cancel cancelled stage => exact inductionHypothesis rfl

theorem Run.waits_or_ends {effect : Effect}
    (run : Run first events last) (cancelled : first.cancelled = true)
    (keeps : first.stage.Disciplined streaming goal ledger)
    (waiting : first.stage.WaitsFor effect) :
    last.stage.WaitsFor effect ∨ last = .ended := by
  induction run generalizing ledger with
  | nil standing => exact .inl waiting
  | cons step rest inductionHypothesis =>
      rcases step.waits_or_ends cancelled keeps waiting with waits | ended
      · exact inductionHypothesis (step.remains_cancelled cancelled)
          (step.disciplined keeps) waits
      · exact .inr (rest.remains_ended ended)

/-! ## The last outcome -/

private theorem Ledger.due_after
    (nothingDue : (ledger.after streaming event).due = false) :
    (ledger.due = false ∧ event.isIdle = true) ∨
      ∃ exchange, event = .receive exchange ∧
        ledger.concludes streaming exchange = true := by
  cases event with
  | cancel => exact .inl ⟨nothingDue, rfl⟩
  | abandon effect => exact nomatch nothingDue
  | start effect =>
      obtain ⟨before, silent⟩ := Bool.or_eq_false_iff.mp nothingDue
      exact .inl ⟨before, (Bool.not_eq_false' _).mp silent⟩
  | arrive exchange =>
      obtain ⟨before, silent⟩ := Bool.or_eq_false_iff.mp nothingDue
      exact .inl ⟨before, (Bool.not_eq_false' _).mp silent⟩
  | receive exchange =>
      simp only [Ledger.after, Ledger.receive] at nothingDue
      split at nothingDue
      · rename_i isLog
        exact .inl ⟨nothingDue, isLog⟩
      · exact .inr ⟨exchange, rfl, (Bool.not_eq_false' _).mp nothingDue⟩

/-- Where nothing is due, only the log was at work since the last outcome. -/
theorem Ledger.concluded_at
    (nothingDue : (events.foldl (after streaming) ledger).due = false) :
    (ledger.due = false ∧ ∀ event ∈ events, event.isIdle = true) ∨
      ∃ earlier exchange later,
        events = earlier ++ .receive exchange :: later ∧
          (earlier.foldl (after streaming) ledger).concludes streaming
            exchange = true ∧
          ∀ event ∈ later, event.isIdle = true := by
  induction events generalizing ledger with
  | nil => exact .inl ⟨nothingDue, List.forall_mem_nil _⟩
  | cons event events inductionHypothesis =>
      rw [List.foldl_cons] at nothingDue
      rcases inductionHypothesis nothingDue with
        ⟨settled, idle⟩ | ⟨earlier, exchange, later, rfl, concludes, idle⟩
      · rcases due_after settled with
          ⟨before, isIdle⟩ | ⟨exchange, rfl, concludes⟩
        · exact .inl ⟨before, List.forall_mem_cons.mpr ⟨isIdle, idle⟩⟩
        · exact .inr ⟨[], exchange, events, rfl, concludes, idle⟩
      · exact .inr
          ⟨event :: earlier, exchange, later, rfl, concludes, idle⟩

/-- The outcome that a call needed last was received before it was cancelled. -/
theorem Run.last_outcome_before {before after : List Event}
    (run : Run first (before ++ .cancel :: after) last)
    (nothingDue : (Ledger.ofEvents streaming
      (before ++ .cancel :: after)).due = false) :
    ∃ earlier exchange later,
      before = earlier ++ .receive exchange :: later ∧
        (Ledger.ofEvents streaming earlier).concludes streaming exchange =
          true ∧
        ∀ event ∈ later ++ after, event.isIdle = true := by
  rcases Ledger.concluded_at nothingDue with
    ⟨settled, _⟩ | ⟨earlier, exchange, later, split, concludes, idle⟩
  · exact nomatch settled
  · rcases List.append_eq_append_iff.mp split with
      ⟨between, rfl, rest⟩ | ⟨between, rfl, rest⟩
    · -- the outcome would have been received by the cancelled call
      obtain ⟨stage, _, _, back⟩ := Run.of_cancel run
      have received : .receive exchange ∈ after := by
        cases between with
        | nil => exact nomatch rest
        | cons event between =>
            obtain ⟨_, rfl⟩ := List.cons.inj rest
            exact List.mem_append_right _ List.mem_cons_self
      obtain ⟨effect, answer⟩ := exchange
      exact absurd received ((back.no_wait_proceeds rfl
        (Ledger.waits_of_concludes concludes)).2 answer)
    · cases between with
      | nil => exact nomatch rest
      | cons event between =>
          obtain ⟨rfl, rfl⟩ := List.cons.inj rest
          refine ⟨earlier, exchange, between, rfl, concludes, ?_⟩
          intro event member
          rcases List.mem_append.mp member with isBefore | isAfter
          · exact idle event (List.mem_append_left _ isBefore)
          · exact idle event
              (List.mem_append_right _ (List.mem_cons_of_mem _ isAfter))

/-! ## Runs in surroundings -/

/-- What a program is told in a step. -/
def Event.told? : Event → Option Exchange
  | .receive exchange => some exchange
  | .abandon effect => effect.cancelledAnswer?.map fun answer =>
      ⟨effect, answer⟩
  | _ => none

/-- However surroundings answer a disciplined program, cancellations included,
it takes the steps of a program whose call may be cancelled. -/
theorem Disciplined.steps_of_run {σ : Type} (handler : Handler σ)
    (state : σ) {program : Program (Except Failure α)}
    (disciplined : Disciplined streaming goal ledger program)
    {result : Except Failure α}
    (finished : (program.run handler state).1 = some result) :
    ∃ events cancelled,
      Run ⟨false, .running program⟩ events ⟨cancelled, .running (.done result)⟩ ∧
        events.filterMap Event.told? = program.trace handler state := by
  induction disciplined generalizing state with
  | breakdown ledger => exact nomatch finished
  | failed ledger failure =>
      obtain rfl := Option.some.inj finished
      exact ⟨[], false, .nil _, rfl⟩
  | succeeded ledger value reached concluded =>
      obtain rfl := Option.some.inj finished
      exact ⟨[], false, .nil _, rfl⟩
  | perform ledger effect next taken stops goesOn inductionHypothesis =>
      rw [Program.run_perform] at finished
      rw [Program.trace_perform]
      obtain ⟨⟨answer, later⟩, answered⟩ : ∃ answered,
        handler effect state = answered := ⟨_, rfl⟩
      rw [answered] at finished ⊢
      by_cases genuine : Exchange.Genuine ⟨effect, answer⟩
      · obtain ⟨events, cancelled, rest, told⟩ :=
          inductionHypothesis answer genuine later finished
        refine ⟨.start effect :: .arrive ⟨effect, answer⟩ ::
          .receive ⟨effect, answer⟩ :: events, cancelled, ?_, ?_⟩
        · exact .cons (.start false effect next fun _ => rfl)
            (.cons (.arrive false effect next answer genuine)
              (.cons (.receive false effect next answer fun _ => rfl) rest))
        · exact congrArg (⟨effect, answer⟩ :: ·) told
      · have waits := Classical.not_not.mp genuine
        have ends := stops answer waits
        rw [ends] at finished ⊢
        obtain rfl := Option.some.inj finished
        refine ⟨[.cancel, .abandon effect], true, ?_, ?_⟩
        · refine .cons (.cancel false _) (.cons ?_ (.nil _))
          rw [← ends]
          exact .abandonAtOnce effect next answer waits
        · have told : Event.told? (.abandon effect) =
              some ⟨effect, answer⟩ := by
            simp only [Event.told?, waits, Option.map_some]
          rw [List.filterMap_cons, List.filterMap_cons, told]
          rfl

end Runs

/-! ## Clients -/

/-- A client whose call is cancelled, at whatever moment, starts no call after
that, passes no delay, takes no item, and hands over at most the chunk that it
took before; each wait that it reaches ends the call with the cancellation; and
if it succeeds, then every outcome was received before, with nothing but the log
at work since the last of them. -/
theorem Client.generate_is_cancellation_safe (client : Client)
    (options : CallOptions) (streaming : Bool)
    (sets : List (List Chat.Message)) (before after : List Event)
    (final : Standing (Except Failure (List Generation)))
    (run : Run ⟨false, .running (client.generate options streaming sets)⟩
      (before ++ .cancel :: after) final) :
    (∀ request, .start (.invoke request) ∉ after ∧
        .start (.openStream request) ∉ after) ∧
      (∀ span answer, .receive ⟨.sleep span, answer⟩ ∉ after) ∧
      (∀ answer, .receive ⟨.awaitItem, answer⟩ ∉ after) ∧
      handed after <+: (Ledger.ofEvents streaming before).inHand.toList ∧
      (∀ effect, final.stage.WaitsFor effect →
        Step final (.abandon effect) .ended ∧
          ∀ events last, Run final events last →
            last.stage.WaitsFor effect ∨ last = .ended) ∧
      ∀ generations, final.stage = .running (.done (.ok generations)) →
        (Ledger.ofEvents streaming before).outcomes = sets.length ∧
          ∃ earlier exchange later,
            before = earlier ++ .receive exchange :: later ∧
              (Ledger.ofEvents streaming earlier).concludes streaming
                exchange = true ∧
              ∀ event ∈ later ++ after, event.isIdle = true := by
  have disciplined : Stage.Disciplined streaming sets.length .empty
      (.running (client.generate options streaming sets)) :=
    .running (Disciplined.generate client options streaming sets)
  obtain ⟨stage, _, front, back⟩ := Run.of_cancel run
  have keeps := front.disciplined disciplined
  have noWait (effect : Effect) (waits : effect.Waits) :=
    back.no_wait_proceeds rfl waits
  obtain ⟨flag, reached⟩ := final
  obtain rfl : flag = true := back.remains_cancelled rfl
  refine ⟨?_, fun span => (noWait (.sleep span) nofun).2,
    (noWait .awaitItem nofun).2, back.handed_from_hand rfl keeps, ?_, ?_⟩
  · intro request
    exact ⟨(noWait (.invoke request) nofun).1,
      (noWait (.openStream request) nofun).1⟩
  · intro effect waiting
    have later := back.disciplined keeps
    exact ⟨later.abandons waiting,
      fun events last rest => rest.waits_or_ends rfl later waiting⟩
  · rintro generations ⟨⟩
    cases run.disciplined disciplined with
    | running succeeded =>
        cases succeeded with
        | succeeded _ _ outcomes concluded =>
            refine ⟨?_, run.last_outcome_before concluded⟩
            rw [← outcomes, List.foldl_append, List.foldl_cons]
            exact (back.no_outcome_received rfl).symm

/-- The request of a greeting. -/
def greeting : Wire.Request :=
  Provider.toRequest .standard .none [.user "hi"]

/-- A streamed greeting up to the moment when its only chunk was taken. -/
def untilTaken : List Event :=
  [.start (.connect "key"), .arrive ⟨.connect "key", .ok ()⟩,
    .receive ⟨.connect "key", .ok ()⟩,
    .start (.openStream greeting),
    .arrive ⟨.openStream greeting, .ready (.ok [.ok ⟨"add", [33]⟩])⟩,
    .receive ⟨.openStream greeting, .ready (.ok [.ok ⟨"add", [33]⟩])⟩,
    .start .awaitItem, .arrive ⟨.awaitItem, .ready ()⟩,
    .receive ⟨.awaitItem, .ready ()⟩]

/-- The steps that are left once it is cancelled then. -/
def sinceTaken : List Event :=
  [.start (.deliver [33]), .arrive ⟨.deliver [33], .ok ()⟩,
    .receive ⟨.deliver [33], .ok ()⟩, .abandon .awaitItem]

/-- A chunk in hand still reaches the sink, and then the call ends. -/
theorem Client.generate_cancelled_with_chunk_in_hand :
    Run ⟨false, .running
        ((Client.ofKey "key").generate .none true [[.user "hi"]])⟩
      (untilTaken ++ .cancel :: sinceTaken) .ended ∧
      handed sinceTaken = [[33]] ∧
      handed sinceTaken <+: (Ledger.ofEvents true untilTaken).inHand.toList := by
  have run : Run ⟨false, .running
        ((Client.ofKey "key").generate .none true [[.user "hi"]])⟩
      (untilTaken ++ .cancel :: sinceTaken) .ended :=
    .cons (.start _ _ _ nofun) <| .cons (.arrive _ _ _ _ nofun) <|
      .cons (.receive _ _ _ _ nofun) <|
      .cons (.start _ _ _ fun _ => rfl) <| .cons (.arrive _ _ _ _ nofun) <|
      .cons (.receive _ _ _ _ fun _ => rfl) <|
      .cons (.start _ _ _ fun _ => rfl) <| .cons (.arrive _ _ _ _ nofun) <|
      .cons (.receive _ _ _ _ fun _ => rfl) <|
      .cons (.cancel _ _) <|
      .cons (.start _ _ _ nofun) <| .cons (.arrive _ _ _ _ nofun) <|
      .cons (.receive _ _ _ _ nofun) <|
      .cons (.abandonAtOnce _ _ _ rfl) <| .nil _
  exact ⟨run, rfl, (generate_is_cancellation_safe (Client.ofKey "key") .none
    true [[.user "hi"]] untilTaken sinceTaken .ended run).2.2.2.1⟩

end Parley.Session
