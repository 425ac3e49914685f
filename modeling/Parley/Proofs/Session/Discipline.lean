import Parley.Proofs.Session.Attempt
import Parley.Proofs.Session.Interruption
import Parley.Session.Client

/-!
Contract: what a client performs between its waits.

A disciplined program ends at once when a wait tells it of a cancellation, hands
to the sink nothing but the chunk that it took last, and reports success only
when it received as many outcomes of the service as it is to have and did nothing
but write to the log since the last of them. What it received is read off the
events of the run.

Owns: `Ledger`, `Disciplined`, and the proof that `Client.generate` is
disciplined.
-/

namespace Parley.Session

open Parley.Provider (CallOptions Failure)
open Parley.Text (Bytes)
open Parley.Wire (Envelope Request)

/-- Whether an effect writes to the log. -/
def Effect.isLog : Effect → Bool
  | .log _ => true
  | _ => false

/-- The chunk that an effect hands to the sink. -/
def Effect.chunk? : Effect → Option Bytes
  | .deliver chunk => some chunk
  | _ => none

/-- The chunk that an item of a stream brings for the sink. -/
def itemChunk? : StreamItem → Option Bytes
  | .error _ => none
  | .ok event => if event.isFinish then none else some event.payload

/-- What the events of a run show: the chunk of the item that was taken last,
unless the sink was handed it; the items of the open stream that were not taken
yet; how many outcomes were received; and whether anything but the log came since
the last of them. -/
structure Ledger where
  inHand : Option Bytes
  left : List StreamItem
  outcomes : Nat
  due : Bool

namespace Ledger

/-- Nothing happened yet. -/
def empty : Ledger :=
  ⟨none, [], 0, true⟩

/-- Whether an exchange brings an outcome: an envelope with data, or the end of
the open stream. -/
def concludes (streaming : Bool) (ledger : Ledger) : Exchange → Bool
  | ⟨.invoke _, .ready (.ok envelope)⟩ => !streaming && envelope.data.isSome
  | ⟨.awaitItem, .ready ()⟩ => streaming && ledger.left.isEmpty
  | _ => false

/-- The ledger once an effect was started. -/
def start (ledger : Ledger) (effect : Effect) : Ledger where
  inHand := if effect.chunk?.isSome then none else ledger.inHand
  left := ledger.left
  outcomes := ledger.outcomes
  due := ledger.due || !effect.isLog

/-- The ledger once an answer was received. -/
def receive (streaming : Bool) (ledger : Ledger) (exchange : Exchange) :
    Ledger where
  inHand :=
    if exchange.awaitsItem then ledger.left.head?.bind itemChunk?
    else ledger.inHand
  left :=
    match exchange with
    | ⟨.openStream _, .ready (.ok items)⟩ => items
    | ⟨.awaitItem, _⟩ => ledger.left.tail
    | _ => ledger.left
  outcomes :=
    ledger.outcomes + (ledger.concludes streaming exchange).toNat
  due :=
    if exchange.effect.isLog then ledger.due
    else !ledger.concludes streaming exchange

/-- The ledger after a step. -/
def after (streaming : Bool) (ledger : Ledger) : Event → Ledger
  | .cancel => ledger
  | .start effect => ledger.start effect
  | .arrive exchange =>
      { ledger with due := ledger.due || !exchange.effect.isLog }
  | .receive exchange => ledger.receive streaming exchange
  | .abandon _ => { ledger with due := true }

/-- What the events of a run show in the end. -/
def ofEvents (streaming : Bool) (events : List Event) : Ledger :=
  events.foldl (after streaming) empty

private theorem receive_logged (streaming : Bool) (ledger : Ledger)
    (entry : Log.Entry) :
    (ledger.start (.log entry)).receive streaming (.logged entry) =
      ledger := by
  simp only [start, receive, concludes, Exchange.logged, Effect.chunk?,
    Effect.isLog, Exchange.awaitsItem, Option.isSome_none, Bool.not_true,
    Bool.or_false, Bool.toNat_false, Nat.add_zero, if_true,
    Bool.false_eq_true, if_false]

/-- An overloaded outcome is none that a call is to have. -/
theorem concludes_of_overloaded {executor : Executor} {request : Request}
    {outcome : Except Failure Envelope}
    (overloaded : executor.Overloaded outcome) (ledger : Ledger) :
    ledger.concludes false ⟨.invoke request, .ready outcome⟩ = false := by
  cases outcome with
  | error failure => exact overloaded.elim
  | ok envelope =>
      simp only [concludes, overloaded.1, Option.isSome_none, Bool.and_false]

end Ledger

/-- Whether a program keeps to a ledger and succeeds only with a number of
outcomes. -/
inductive Disciplined (streaming : Bool) {α : Type} (goal : Nat) :
    Ledger → Program (Except Failure α) → Prop where
  | breakdown (ledger : Ledger) :
      Disciplined streaming goal ledger .breakdown
  | failed (ledger : Ledger) (failure : Failure) :
      Disciplined streaming goal ledger (.done (.error failure))
  | succeeded (ledger : Ledger) (value : α)
      (reached : ledger.outcomes = goal) (concluded : ledger.due = false) :
      Disciplined streaming goal ledger (.done (.ok value))
  | perform (ledger : Ledger) (effect : Effect)
      (next : effect.Answer → Program (Except Failure α))
      (taken : ∀ chunk, effect.chunk? = some chunk →
        ledger.inHand = some chunk)
      (stops : ∀ answer, effect.cancelledAnswer? = some answer →
        next answer = .done (.error .cancelled))
      (goesOn : ∀ answer, Exchange.Genuine ⟨effect, answer⟩ →
        Disciplined streaming goal
          ((ledger.start effect).receive streaming ⟨effect, answer⟩)
          (next answer)) :
      Disciplined streaming goal ledger (.perform effect next)

namespace Disciplined

variable {streaming : Bool} {α β : Type} {goal : Nat} {ledger : Ledger}

/-! ## Composition -/

/-- A wait that ends the program with the cancellation that it is told of. -/
theorem stopsAt {effect : Effect} {cancelled : effect.Answer}
    {next : effect.Answer → Program (Except Failure α)}
    (waits : effect.cancelledAnswer? = some cancelled)
    (stopped : next cancelled = .done (.error .cancelled)) :
    ∀ answer, effect.cancelledAnswer? = some answer →
      next answer = .done (.error .cancelled) := by
  intro answer told
  obtain rfl : cancelled = answer := Option.some.inj (waits.symm.trans told)
  exact stopped

/-- What does not wait is never told of a cancellation. -/
theorem stopsNever {effect : Effect}
    {next : effect.Answer → Program (Except Failure α)}
    (instant : effect.cancelledAnswer? = none) :
    ∀ answer, effect.cancelledAnswer? = some answer →
      next answer = .done (.error .cancelled) := by
  intro answer told
  exact nomatch instant.symm.trans told

theorem logged {entry : Log.Entry} {program : Program (Except Failure α)}
    (disciplined : Disciplined streaming goal ledger program) :
    Disciplined streaming goal ledger (.logged entry program) := by
  refine .perform ledger (.log entry) _ (fun chunk handed => nomatch handed)
    (stopsNever rfl) fun answer _ => ?_
  rw [← Ledger.receive_logged streaming ledger entry] at disciplined
  exact disciplined

theorem loggedAll {entries : List Log.Entry}
    {program : Program (Except Failure α)}
    (disciplined : Disciplined streaming goal ledger program) :
    Disciplined streaming goal ledger (.loggedAll entries program) := by
  induction entries with
  | nil => exact disciplined
  | cons entry entries inductionHypothesis =>
      exact logged inductionHypothesis

/-- What follows a success may rely on its outcomes. -/
theorem andThen {program : Program (Except Failure α)}
    {next : α → Program (Except Failure β)} {reached : Nat}
    (first : Disciplined streaming reached ledger program)
    (rest : ∀ value (later : Ledger), later.outcomes = reached →
      later.due = false → Disciplined streaming goal later (next value)) :
    Disciplined streaming goal ledger (program.andThen next) := by
  induction first with
  | breakdown ledger => exact .breakdown ledger
  | failed ledger failure => exact .failed ledger failure
  | succeeded ledger value reached concluded =>
      exact rest value ledger reached concluded
  | perform ledger effect resume taken stops goesOn inductionHypothesis =>
      refine .perform ledger effect _ taken ?_ inductionHypothesis
      intro answer waits
      rw [stops answer waits]
      rfl

/-- A program may perform anything but a delivery at any time. -/
theorem performs (effect : Effect)
    {next : effect.Answer → Program (Except Failure α)}
    (silent : effect.chunk? = none)
    (stops : ∀ answer, effect.cancelledAnswer? = some answer →
      next answer = .done (.error .cancelled))
    (goesOn : ∀ answer, Exchange.Genuine ⟨effect, answer⟩ →
      Disciplined streaming goal
        ((ledger.start effect).receive streaming ⟨effect, answer⟩)
        (next answer)) :
    Disciplined streaming goal ledger (.perform effect next) := by
  refine .perform ledger effect next (fun chunk handed => ?_) stops goesOn
  rw [silent] at handed
  exact nomatch handed

/-- A program may succeed once it received its last outcome. -/
theorem concludedBy {exchange : Exchange} {value : α}
    (outcomes : ledger.outcomes + 1 = goal)
    (concludes : ledger.concludes streaming exchange = true) :
    Disciplined streaming goal (ledger.receive streaming exchange)
      (.done (.ok value)) := by
  have notLog : exchange.effect.isLog = false := by
    obtain ⟨effect, answer⟩ := exchange
    cases effect <;> first | rfl | exact nomatch concludes
  refine .succeeded _ _ ?_ ?_
  · simp only [Ledger.receive, concludes]
    exact outcomes
  · simp only [Ledger.receive, concludes, notLog]
    rfl

/-! ## Single calls -/

/-- A verdict fails, or it is a success with the outcome that was received last. -/
theorem ofVerdict (request : Request) (attempts : Nat)
    (waited : Time.Duration) (outcome : Except Failure Envelope)
    (outcomes : ledger.outcomes + 1 = goal) :
    Disciplined false goal
      (ledger.receive false ⟨.invoke request, .ready outcome⟩)
      (.done (verdict attempts waited outcome)) := by
  cases result : verdict attempts waited outcome with
  | error failure => exact .failed _ failure
  | ok completion =>
      obtain ⟨envelope, rfl, hasData, _⟩ := ok_of_verdict result
      apply concludedBy outcomes
      simp only [Ledger.concludes, hasData, Option.isSome_some,
        Bool.not_false, Bool.and_self]

theorem attempt (executor : Executor) (request : Request) (made : Nat)
    (waited : Time.Duration) (outcomes : ledger.outcomes + 1 = goal) :
    Disciplined false goal ledger (executor.attempt request made waited) := by
  induction made using executor.attempt_induction
    generalizing waited ledger with
  | step made inductionHypothesis =>
      rw [Executor.attempt_eq]
      split
      · exact .breakdown ledger
      refine performs _ rfl (stopsAt rfl rfl) ?_
      rintro (_ | outcome) genuine
      · exact absurd rfl genuine
      refine loggedAll ?_
      split
      · rename_i repeated
        refine performs (.drawJitter _) rfl (stopsNever rfl)
          fun delay _ => ?_
        refine logged (performs (.sleep delay) rfl (stopsAt rfl rfl) ?_)
        rintro (_ | ⟨⟨⟩⟩) genuine
        · exact absurd rfl genuine
        · dsimp only [Executor.afterDelay]
          split
          · exact .breakdown _
          · refine inductionHypothesis repeated.2 _ ?_
            simp only [Ledger.receive,
              Ledger.concludes_of_overloaded repeated.1]
            exact outcomes
      · exact ofVerdict request (made + 1) waited outcome outcomes

theorem complete (client : Client) (request : Request)
    (outcomes : ledger.outcomes + 1 = goal) :
    Disciplined false goal ledger (client.complete request) := by
  refine andThen (attempt client.executor request 0 .zero outcomes) ?_
  intro completion later reached concluded
  refine loggedAll ?_
  cases client.decode completion.data with
  | error failure => exact .failed later failure
  | ok generation => exact .succeeded later generation reached concluded

/-! ## Streams -/

/-- Relaying the items that are left takes each of them and then their end. -/
theorem relayOnto (taken : List Bytes) (chunks : Nat)
    (items : List StreamItem) (whole : ledger.left = items)
    (outcomes : ledger.outcomes + 1 = goal) :
    Disciplined true goal ledger
      (Session.relayOnto taken chunks items) := by
  induction items generalizing taken chunks ledger with
  | nil =>
      refine performs .awaitItem rfl (stopsAt rfl rfl) ?_
      rintro (_ | ⟨⟨⟩⟩) genuine
      · exact absurd rfl genuine
      · refine logged (concludedBy outcomes ?_)
        simp only [Ledger.concludes, Ledger.start, whole, List.isEmpty_nil,
          Bool.and_self]
  | cons item items inductionHypothesis =>
      refine performs .awaitItem rfl (stopsAt rfl rfl) ?_
      rintro (_ | ⟨⟨⟩⟩) genuine
      · exact absurd rfl genuine
      · obtain ⟨now, tookItem⟩ : ∃ now,
            now = (ledger.start .awaitItem).receive true
              ⟨.awaitItem, .ready ()⟩ := ⟨_, rfl⟩
        have rest : now.left = items := by
          rw [tookItem]
          exact congrArg List.tail whole
        have sameOutcomes : now.outcomes + 1 = goal := by
          simp only [tookItem, Ledger.receive, Ledger.concludes,
            Ledger.start, whole, List.isEmpty_cons, Bool.and_false]
          exact outcomes
        have inHand : now.inHand = itemChunk? item := by
          simp only [tookItem, Ledger.receive, Ledger.start, whole]
          rfl
        rw [← tookItem]
        cases item with
        | error failure => exact .failed _ failure
        | ok event =>
            dsimp only
            split
            · exact inductionHypothesis taken chunks rest sameOutcomes
            · rename_i isChunk
              refine loggedAll (.perform _ (.deliver event.payload) _ ?_
                (stopsNever rfl) ?_)
              · rintro chunk ⟨⟩
                rw [inHand, itemChunk?, if_neg isChunk]
              · rintro (message | ⟨⟨⟩⟩) _
                · exact .failed _ _
                · exact inductionHypothesis _ _ rest sameOutcomes

theorem streamGeneration (request : Request)
    (outcomes : ledger.outcomes + 1 = goal) :
    Disciplined true goal ledger (Session.streamGeneration request) := by
  refine performs (.openStream request) rfl (stopsAt rfl rfl) ?_
  rintro (_ | failure | items) genuine
  · exact absurd rfl genuine
  · exact .failed _ failure
  · exact relayOnto [] 0 items rfl outcomes

/-! ## Clients -/

theorem answer (client : Client) (options : CallOptions) (streaming : Bool)
    (messages : List Chat.Message) (outcomes : ledger.outcomes + 1 = goal) :
    Disciplined streaming goal ledger
      (client.answer options streaming messages) := by
  refine loggedAll ?_
  split
  · exact .failed ledger .emptyPrompt
  · refine performs (.connect client.apiKey) rfl (stopsNever rfl) ?_
    rintro (failure | ⟨⟨⟩⟩) _
    · exact .failed _ failure
    · cases streaming with
      | false => exact complete client _ outcomes
      | true => exact streamGeneration _ outcomes

theorem answerAll (client : Client) (options : CallOptions)
    (streaming : Bool) (sets : List (List Chat.Message))
    (outcomes : ledger.outcomes + sets.length = goal)
    (concluded : sets = [] → ledger.due = false) :
    Disciplined streaming goal ledger
      (client.answerAll options streaming sets) := by
  induction sets generalizing ledger with
  | nil => exact .succeeded ledger [] outcomes (concluded rfl)
  | cons messages rest inductionHypothesis =>
      refine andThen (answer client options streaming messages rfl) ?_
      intro generation later reached nothingDue
      refine andThen (inductionHypothesis ?_ fun _ => nothingDue) ?_
      · rw [reached, ← outcomes, List.length_cons, Nat.add_right_comm]
        rfl
      · intro generations last reached nothingDue
        exact .succeeded last _ reached nothingDue

/-- A client is disciplined, with an outcome for each conversation. -/
theorem generate (client : Client) (options : CallOptions)
    (streaming : Bool) (sets : List (List Chat.Message)) :
    Disciplined streaming sets.length .empty
      (client.generate options streaming sets) := by
  rw [Client.generate]
  split
  · exact .failed .empty .emptyPrompt
  · rename_i nonempty
    refine loggedAll (answerAll client options streaming sets
      (Nat.zero_add _) fun empty => ?_)
    exact absurd (List.isEmpty_iff.mpr empty) nonempty

end Disciplined

end Parley.Session
