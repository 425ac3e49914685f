import Parley.Proofs.Session.Attempt
import Parley.Proofs.Session.Trace
import Parley.Session.Client

/-!
Contract: programs that ask for nothing but what they may, and end with nothing
but what they may.

A single call ends with a cancellation or with the verdict on an outcome that it
was told, and a stream as its items and the sink have it. Once its connection is
open, what answers a conversation opens no other and sends no request but that of
the conversation.

Owns: `Program.Keeps`, `Effect.Serves`, and what answers a single request.
-/

namespace Parley.Session

open Parley.Chat (Generation)
open Parley.Provider (Failure)
open Parley.Text (Bytes)
open Parley.Time (Duration)
open Parley.Wire (Envelope Request)

namespace Program

variable {α β : Type} {asks : Effect → Prop} {told : Exchange → Prop}

/-- Whether a program asks for effects of a kind only, and ends with results of a
kind only as long as it is told what is of a kind. -/
inductive Keeps (asks : Effect → Prop) (told : Exchange → Prop)
    (ends : α → Prop) : Program α → Prop where
  | done (value : α) (isEnd : ends value) : Keeps asks told ends (.done value)
  | breakdown : Keeps asks told ends .breakdown
  | perform {effect : Effect} {next : effect.Answer → Program α}
      (isAsked : asks effect)
      (rest : ∀ answer, told ⟨effect, answer⟩ →
        Keeps asks told ends (next answer)) :
      Keeps asks told ends (.perform effect next)

/-- Whether a program asks for allowed effects only, however it is answered. -/
abbrev Confined (allowed : Effect → Prop) : Program α → Prop :=
  Keeps allowed (fun _ => True) fun _ => True

namespace Keeps

variable {ends : α → Prop} {program : Program α}

theorem mono {permitted : Effect → Prop} {later : α → Prop}
    (keeps : Keeps asks told ends program)
    (wider : ∀ effect, asks effect → permitted effect)
    (weaker : ∀ value, ends value → later value) :
    Keeps permitted told later program := by
  induction keeps with
  | done value isEnd => exact .done value (weaker value isEnd)
  | breakdown => exact .breakdown
  | perform isAsked _ inductionHypothesis =>
      exact .perform (wider _ isAsked) inductionHypothesis

theorem loggedAll (entries : List Log.Entry)
    (mayLog : ∀ entry, asks (.log entry))
    (rest : Keeps asks told ends program) :
    Keeps asks told ends (.loggedAll entries program) := by
  induction entries with
  | nil => exact rest
  | cons entry entries inductionHypothesis =>
      exact .perform (mayLog entry) fun _ _ => inductionHypothesis

theorem andThen {ends : Except Failure α → Prop}
    {later : Except Failure β → Prop} {program : Program (Except Failure α)}
    {next : α → Program (Except Failure β)}
    (first : Keeps asks told ends program)
    (failed : ∀ failure, ends (.error failure) → later (.error failure))
    (rest : ∀ value, ends (.ok value) → Keeps asks told later (next value)) :
    Keeps asks told later (program.andThen next) := by
  induction first with
  | done result isEnd =>
      cases result with
      | error failure => exact .done _ (failed failure isEnd)
      | ok value => exact rest value isEnd
  | breakdown => exact .breakdown
  | perform isAsked _ inductionHypothesis =>
      exact .perform isAsked inductionHypothesis

section Runs

variable {σ : Type} {handler : Handler σ} {state : σ}

/-- A run performs the effects that its program may ask for. -/
theorem of_mem_trace (keeps : Keeps asks told ends program)
    (isTold : ∀ exchange ∈ program.trace handler state, told exchange)
    {exchange : Exchange} (member : exchange ∈ program.trace handler state) :
    asks exchange.effect := by
  induction keeps generalizing state with
  | done value => exact nomatch member
  | breakdown => exact nomatch member
  | perform isAsked _ inductionHypothesis =>
      rw [trace_perform] at isTold member
      rcases List.mem_cons.mp member with isFirst | isLater
      · rw [isFirst]
        exact isAsked
      · exact inductionHypothesis _ (isTold _ List.mem_cons_self)
          (fun exchange later => isTold exchange (List.mem_cons_of_mem _ later))
          isLater

/-- A run ends with what its program may end with. -/
theorem of_run (keeps : Keeps asks told ends program)
    (isTold : ∀ exchange ∈ program.trace handler state, told exchange)
    {value : α} (ended : (program.run handler state).1 = some value) :
    ends value := by
  induction keeps generalizing state with
  | done result isEnd =>
      rw [← Option.some.inj ended]
      exact isEnd
  | breakdown => exact nomatch ended
  | perform _ _ inductionHypothesis =>
      rw [trace_perform] at isTold
      exact inductionHypothesis _ (isTold _ List.mem_cons_self)
        (fun exchange later => isTold exchange (List.mem_cons_of_mem _ later))
        ended

end Runs

end Keeps

end Program

open Program (Confined Keeps)

/-- Whether an effect opens no connection and sends no other request. -/
def Effect.Serves (request : Request) : Effect → Prop
  | .connect _ => False
  | .invoke sent => sent = request
  | .openStream sent => sent = request
  | .awaitItem => True
  | .deliver _ => True
  | .drawJitter _ => True
  | .sleep _ => True
  | .log _ => True

/-! ## Single calls -/

/-- What a single call may end with: a cancellation, or the verdict on an outcome
that it was told. -/
inductive Executor.Ends (told : Exchange → Prop) (request : Request) :
    Except Failure Completion → Prop where
  | cancelled : Ends told request (.error .cancelled)
  | decided (attempts : Nat) (waited : Duration)
      (outcome : Except Failure Envelope)
      (isTold : told ⟨.invoke request, .ready outcome⟩) :
      Ends told request (verdict attempts waited outcome)

theorem Executor.attempt_keeps (executor : Executor) (told : Exchange → Prop)
    (request : Request) (made : Nat) (waited : Duration) :
    Keeps (Effect.Serves request) told (Executor.Ends told request)
      (executor.attempt request made waited) := by
  induction made using executor.attempt_induction generalizing waited with
  | step made inductionHypothesis =>
      rw [attempt_eq]
      split
      · exact .breakdown
      refine .perform rfl ?_
      rintro (_ | outcome) isTold
      · exact .done _ .cancelled
      refine .loggedAll _ (fun _ => trivial) ?_
      split
      · rename_i repeated
        refine .perform trivial fun delay _ => .perform trivial fun _ _ =>
          .perform trivial ?_
        rintro (_ | ⟨⟨⟩⟩) _
        · exact .done _ .cancelled
        · dsimp only [afterDelay]
          split
          · exact .breakdown
          · exact inductionHypothesis repeated.2 _
      · exact .done _ (.decided _ _ outcome isTold)

/-! ## Streams -/

/-- What the items of a stream may be relayed to: a cancellation, the failure of
an item, a refusal of the sink, or a text. -/
inductive RelayEnds (items : List StreamItem) :
    Except Failure Generation → Prop where
  | cancelled : RelayEnds items (.error .cancelled)
  | broken (failure : Failure) (isItem : .error failure ∈ items) :
      RelayEnds items (.error failure)
  | rejected (message : String) : RelayEnds items (.error (.sink message))
  | whole (text : String) : RelayEnds items (.ok (.ofText text))

/-- What a stream may end with: also the failure to open it. -/
inductive StreamEnds (told : Exchange → Prop) (request : Request) :
    Except Failure Generation → Prop where
  | cancelled : StreamEnds told request (.error .cancelled)
  | refused (failure : Failure)
      (isTold : told ⟨.openStream request, .ready (.error failure)⟩) :
      StreamEnds told request (.error failure)
  | opened (items : List StreamItem) {result : Except Failure Generation}
      (isTold : told ⟨.openStream request, .ready (.ok items)⟩)
      (relayed : RelayEnds items result) : StreamEnds told request result

theorem RelayEnds.cons {items : List StreamItem}
    {result : Except Failure Generation} (item : StreamItem)
    (ends : RelayEnds items result) : RelayEnds (item :: items) result := by
  cases ends with
  | cancelled => exact .cancelled
  | broken failure isItem =>
      exact .broken failure (List.mem_cons_of_mem item isItem)
  | rejected message => exact .rejected message
  | whole text => exact .whole text

private theorem relayOnto_keeps (request : Request) (told : Exchange → Prop)
    (taken : List Bytes) (chunks : Nat) (items : List StreamItem) :
    Keeps (Effect.Serves request) told (RelayEnds items)
      (relayOnto taken chunks items) := by
  induction items generalizing taken chunks with
  | nil =>
      refine .perform trivial ?_
      rintro (_ | ⟨⟨⟩⟩) _
      · exact .done _ .cancelled
      · exact .perform trivial fun _ _ => .done _ (.whole _)
  | cons item items inductionHypothesis =>
      have later (taken : List Bytes) (chunks : Nat) :=
        (inductionHypothesis taken chunks).mono (fun _ => id)
          fun _ => RelayEnds.cons item
      refine .perform trivial ?_
      rintro (_ | ⟨⟨⟩⟩) _
      · exact .done _ .cancelled
      · cases item with
        | error failure =>
            exact .done _ (.broken failure List.mem_cons_self)
        | ok event =>
            dsimp only
            split
            · exact later taken chunks
            · refine .loggedAll _ (fun _ => trivial) (.perform trivial ?_)
              rintro (message | ⟨⟨⟩⟩) _
              · exact .done _ (.rejected message)
              · exact later _ _

theorem streamGeneration_keeps (told : Exchange → Prop) (request : Request) :
    Keeps (Effect.Serves request) told (StreamEnds told request)
      (streamGeneration request) := by
  refine .perform rfl ?_
  rintro (_ | failure | items) isTold
  · exact .done _ .cancelled
  · exact .done _ (.refused failure isTold)
  · exact (relayOnto_keeps request told [] 0 items).mono (fun _ => id)
      fun _ => .opened items isTold

/-! ## What answers a request -/

private theorem Client.complete_serves (client : Client) (request : Request) :
    Confined (Effect.Serves request) (client.complete request) :=
  .andThen (client.executor.attempt_keeps _ request 0 .zero)
    (fun _ _ => trivial)
    fun _ _ => .loggedAll _ (fun _ => trivial) (.done _ trivial)

/-- Whatever became of the connection, what follows serves the request. -/
theorem Client.connected_serves (client : Client) (streaming : Bool)
    (request : Request) (opened : (Effect.connect client.apiKey).Answer) :
    Confined (Effect.Serves request)
      (match opened with
      | .error failure => .done (.error failure)
      | .ok () =>
          if streaming then streamGeneration request
          else client.complete request) := by
  rcases opened with failure | ⟨⟨⟩⟩
  · exact .done _ trivial
  · cases streaming with
    | false => exact client.complete_serves request
    | true =>
        exact (streamGeneration_keeps _ request).mono (fun _ => id)
          fun _ _ => trivial

end Parley.Session
