import Parley.Proofs.Provider.Content
import Parley.Proofs.Session.BatchComposition
import Parley.Proofs.Session.Interruption

/-!
Contract: a call of one conversation returns the text of its generation.

However a client is answered, it succeeds with one generation for each
conversation, and a single call of it only with a candidate. What is decoded of
that is a text without blanks at either end, and every generation makes the turn
of its text. So two branches of a client are never taken: the one for an answer
without candidates, and the one for a conversation without a generation.

Owns: `Program.Gives`, `Speaks`, `Returned`, clients with other programs in these
branches, and the results of `Client.call`.
-/

namespace Parley.Text

/-- Nothing is trimmed from what was trimmed. -/
theorem Trimmed.self {whole text : List Char} (trimmed : Trimmed whole text) :
    Trimmed text text where
  cut := ⟨[], [], (List.append_nil text).symm, nofun, nofun⟩
  start := trimmed.start
  stop := trimmed.stop

end Parley.Text

namespace Parley.Session

open Parley.Chat (Generation Message)
open Parley.Provider (CallOptions ContentDecoder Failure)
open Parley.Text (Bytes Trimmed)
open Parley.Wire (Answer Request Usage)

namespace Program

variable {α β : Type} {holds : α → Prop}

/-! ## Results of a program -/

/-- Whether a program succeeds with values of a kind only, however it is
answered. -/
abbrev Gives (holds : α → Prop) : Program (Except Failure α) → Prop :=
  Keeps (fun _ => True) (fun _ => True)
    fun result => ∀ value, result = .ok value → holds value

namespace Gives

variable {program : Program (Except Failure α)}

theorem failed (failure : Failure) :
    Gives holds (.done (.error failure)) :=
  .done _ nofun

theorem succeeded (value : α) (good : holds value) :
    Gives holds (.done (.ok value)) := by
  refine .done _ fun given isGiven => ?_
  rw [← Except.ok.inj isGiven]
  exact good

/-- A program gives what it succeeds with, if it keeps to results of a kind. -/
theorem of_keeps {asks : Effect → Prop} {ends : Except Failure α → Prop}
    (keeps : Keeps asks (fun _ => True) ends program)
    (good : ∀ value, ends (.ok value) → holds value) :
    Gives holds program := by
  refine keeps.mono (fun _ _ => trivial) fun result isEnd value isValue => ?_
  rw [isValue] at isEnd
  exact good value isEnd

theorem andThen {later : β → Prop} {next : α → Program (Except Failure β)}
    (first : Gives holds program)
    (rest : ∀ value, holds value → Gives later (next value)) :
    Gives later (program.andThen next) :=
  Keeps.andThen first (fun _ _ => nofun)
    fun value good => rest value (good value rfl)

theorem of_run {σ : Type} {handler : Handler σ} {state : σ} {value : α}
    (gives : Gives holds program)
    (succeeded : (program.run handler state).1 = some (.ok value)) :
    holds value :=
  Keeps.of_run gives (fun _ _ => trivial) succeeded value rfl

/-- What follows a program matters only on the values that it gives. -/
theorem andThen_congr {first second : α → Program (Except Failure β)}
    (gives : Gives holds program)
    (same : ∀ value, holds value → first value = second value) :
    program.andThen first = program.andThen second := by
  induction gives with
  | done result good =>
      cases result with
      | error failure => rfl
      | ok value => exact same value (good value rfl)
  | breakdown => rfl
  | perform _ _ inductionHypothesis =>
      exact congrArg (Program.perform _)
        (funext fun answer => inductionHypothesis answer trivial)

end Gives

end Program

open Program (Gives)

section Runs

variable {α : Type} {holds : α → Prop}

/-- Whether what is left of a program succeeds with values of a kind only. -/
def Stage.Gives (holds : α → Prop) : Stage (Except Failure α) → Prop
  | .running program => Program.Gives holds program
  | .pending _ next _ => ∀ answer, Program.Gives holds (next answer)

theorem Stage.Gives.of_perform {effect : Effect}
    {next : effect.Answer → Program (Except Failure α)}
    (gives : Stage.Gives holds (.running (.perform effect next)))
    (answer : effect.Answer) : Program.Gives holds (next answer) := by
  cases gives with
  | perform _ rest => exact rest answer trivial

theorem Step.gives {first last : Standing (Except Failure α)} {event : Event}
    (step : Step first event last) (gives : first.stage.Gives holds) :
    last.stage.Gives holds := by
  cases step with
  | cancel cancelled stage => exact gives
  | start cancelled effect next allowed => exact gives.of_perform
  | arrive cancelled effect next answer genuine => exact gives
  | receive cancelled effect next answer allowed => exact gives answer
  | abandonAtOnce effect next answer waits => exact gives.of_perform answer
  | abandon effect next arrived answer waits => exact gives answer

theorem Run.gives {first last : Standing (Except Failure α)}
    {events : List Event} (run : Run first events last)
    (gives : first.stage.Gives holds) : last.stage.Gives holds := by
  induction run with
  | nil standing => exact gives
  | cons step rest inductionHypothesis =>
      exact inductionHypothesis (step.gives gives)

/-- A program ends with the values that it gives, whenever its call is
cancelled. -/
theorem Program.Gives.of_steps {program : Program (Except Failure α)}
    {events : List Event} {cancelled : Bool} {value : α}
    (gives : Gives holds program)
    (run : Run ⟨false, .running program⟩ events
      (.endedWith cancelled (.ok value))) : holds value := by
  have last : Gives holds (.done (.ok value)) := run.gives gives
  cases last with
  | done _ good => exact good value rfl

end Runs

/-! ## What answers a request -/

/-- A call is completed only with candidates. -/
theorem Executor.attempt_gives (executor : Executor) (request : Request)
    (made : Nat) (waited : Time.Duration) :
    Gives (fun completion => completion.data.choices ≠ [])
      (executor.attempt request made waited) := by
  refine .of_keeps (executor.attempt_keeps _ request made waited) ?_
  intro completion ends
  generalize isResult : Except.ok completion = result at ends
  cases ends with
  | cancelled => cases isResult
  | decided =>
      obtain ⟨_, _, _, someChoice⟩ := ok_of_verdict isResult.symm
      exact someChoice

/-- Whether a generation makes the turn of its text, of which something is left
and nothing is to be trimmed if it was decoded. -/
structure Speaks (streaming : Bool) (generation : Generation) : Prop where
  turn : generation.toMessage = .assistant generation.text
  trimmed : streaming = false → generation.text ≠ "" ∧
    Trimmed generation.text.toList generation.text.toList

private theorem speaks_of_decodeGeneration {decoder : ContentDecoder}
    {content : Option String} {usage : Usage} {generation : Generation}
    (decoded : Provider.decodeGeneration decoder content usage =
      .ok generation) : Speaks false generation := by
  unfold Provider.decodeGeneration at decoded
  split at decoded
  · cases decoded
  split at decoded
  · cases decoded
  rename_i text _
  dsimp only at decoded
  split at decoded
  · cases decoded
  rename_i notEmpty
  obtain rfl := Except.ok.inj decoded
  exact ⟨rfl, fun _ => ⟨mt String.isEmpty_iff.mpr notEmpty,
    (Provider.trim_trimmed text).self⟩⟩

private theorem speaks_ofText (text : String) : Speaks true (.ofText text) :=
  ⟨rfl, nofun⟩

private theorem Client.complete_gives (client : Client) (request : Request) :
    Gives (Speaks false) (client.complete request) := by
  refine .andThen (client.executor.attempt_gives request 0 .zero)
    fun completion _ => .loggedAll _ (fun _ => trivial) ?_
  cases decoded : client.decode completion.data with
  | error failure => exact Gives.failed failure
  | ok generation =>
      exact Gives.succeeded generation (speaks_of_decodeGeneration decoded)

private theorem streamGeneration_gives (request : Request) :
    Gives (Speaks true) (streamGeneration request) := by
  refine .of_keeps (streamGeneration_keeps _ request) ?_
  intro generation ends
  cases ends with
  | opened items isTold relayed =>
      cases relayed with
      | whole text => exact speaks_ofText text

namespace Client

variable (client : Client) (options : CallOptions) (streaming : Bool)

/-! ## Conversations -/

theorem answer_gives (messages : List Message) :
    Gives (Speaks streaming) (client.answer options streaming messages) := by
  refine .loggedAll _ (fun _ => trivial) ?_
  split
  · exact Gives.failed .emptyPrompt
  · refine .perform trivial ?_
    rintro (failure | ⟨⟨⟩⟩) _
    · exact Gives.failed failure
    · cases streaming with
      | false => exact client.complete_gives _
      | true => exact streamGeneration_gives _

private theorem answerAll_gives (sets : List (List Message)) :
    Gives (fun generations => generations.length = sets.length)
      (client.answerAll options streaming sets) := by
  induction sets with
  | nil => exact Gives.succeeded [] rfl
  | cons messages rest inductionHypothesis =>
      refine .andThen (client.answer_gives options streaming messages)
        fun generation _ => .andThen inductionHypothesis ?_
      intro generations sameLength
      exact Gives.succeeded _ (congrArg (· + 1) sameLength)

/-- A client succeeds with one generation for each conversation. -/
theorem generate_gives (sets : List (List Message)) :
    Gives (fun generations => generations.length = sets.length)
      (client.generate options streaming sets) := by
  rw [generate]
  split
  · exact Gives.failed .emptyPrompt
  · exact .loggedAll _ (fun _ => trivial)
      (client.answerAll_gives options streaming sets)

/-! ## Other programs in the branches without an answer -/

section Branches

variable (noCandidate : Program (Except Failure Generation))

/-- `complete`, with a program of its own for an answer without candidates. -/
def completeOr (request : Request) : Program (Except Failure Generation) :=
  (client.executor.execute request).andThen fun completion =>
    match completion.data.choices with
    | [] => noCandidate
    | choice :: _ =>
        .loggedAll (retriedEntries completion)
          (.done (Provider.decodeGeneration client.decoder
            (some choice.content) completion.data.usage))

/-- `answer` by `completeOr`. -/
def answerOr (messages : List Message) :
    Program (Except Failure Generation) :=
  let request := Provider.toRequest client.defaults options messages
  .loggedAll (droppedEntries messages)
    (if request.prompt.isEmpty then .done (.error .emptyPrompt)
    else
      .perform (.connect client.apiKey) fun
        | .error failure => .done (.error failure)
        | .ok () =>
            if streaming then streamGeneration request
            else client.completeOr noCandidate request)

/-- `answerAll` by `answerOr`. -/
def answerAllOr :
    List (List Message) → Program (Except Failure (List Generation))
  | [] => .done (.ok [])
  | messages :: rest =>
      (client.answerOr options streaming noCandidate messages).andThen
        fun generation =>
          (answerAllOr rest).andThen fun generations =>
            .done (.ok (generation :: generations))

/-- `generate` by `answerAllOr`. -/
def generateOr (sets : List (List Message)) :
    Program (Except Failure (List Generation)) :=
  if sets.isEmpty then .done (.error .emptyPrompt)
  else
    .loggedAll (sharedSinkEntries streaming sets.length)
      (client.answerAllOr options streaming noCandidate sets)

/-- `call` by `generateOr`, with a program of its own for a conversation without a
generation. -/
def callOr (noGeneration : Program (Except Failure Message))
    (messages : List Message) : Program (Except Failure Message) :=
  (client.generateOr options streaming noCandidate [messages]).andThen fun
    | [] => noGeneration
    | generation :: _ => .done (.ok generation.toMessage)

private theorem completeOr_eq (request : Request) :
    client.completeOr noCandidate request = client.complete request := by
  refine (client.executor.attempt_gives request 0 .zero).andThen_congr ?_
  intro completion someChoice
  obtain ⟨choice, others, choices⟩ := List.exists_cons_of_ne_nil someChoice
  rw [decode, choices]
  rfl

private theorem answerOr_eq (messages : List Message) :
    client.answerOr options streaming noCandidate messages =
      client.answer options streaming messages := by
  simp only [answerOr, completeOr_eq]
  rfl

private theorem answerAllOr_eq (sets : List (List Message)) :
    client.answerAllOr options streaming noCandidate sets =
      client.answerAll options streaming sets := by
  induction sets with
  | nil => rfl
  | cons messages rest inductionHypothesis =>
      rw [answerAllOr, answerAll, answerOr_eq, inductionHypothesis]

theorem generateOr_eq (sets : List (List Message)) :
    client.generateOr options streaming noCandidate sets =
      client.generate options streaming sets := by
  rw [generateOr, generate, answerAllOr_eq]

private theorem callOr_eq (noGeneration : Program (Except Failure Message))
    (messages : List Message) :
    client.callOr options streaming noCandidate noGeneration messages =
      client.call options streaming messages := by
  rw [callOr, call, generateOr_eq]
  refine (client.generate_gives options streaming
    [messages]).andThen_congr ?_
  intro generations single
  obtain ⟨generation, rfl⟩ := List.length_eq_one_iff.mp single
  rfl

end Branches

/-! ## Calls -/

/-- A call makes the assistant's turn of what answers its conversation. -/
theorem call_eq_answer (messages : List Message) :
    client.call options streaming messages =
      (client.answer options streaming messages).andThen fun generation =>
        .done (.ok (.assistant generation.text)) := by
  rw [call, generate_singleton, answerAll_singleton, Program.andThen_assoc]
  refine (client.answer_gives options streaming messages).andThen_congr ?_
  intro generation speaks
  rw [← speaks.turn]
  rfl

/-- What a call makes of the outcome of its generation: the same failure, or the
assistant's turn of the text of the only generation, of which something is left
and nothing is to be trimmed if it was not streamed. -/
inductive Returned (streaming : Bool) :
    Except Failure (List Generation) → Except Failure Message → Prop where
  | failed (failure : Failure) :
      Returned streaming (.error failure) (.error failure)
  | succeeded (generation : Generation)
      (trimmed : streaming = false → generation.text ≠ "" ∧
        Trimmed generation.text.toList generation.text.toList) :
      Returned streaming (.ok [generation])
        (.ok ⟨.assistant, generation.text, none⟩)

/-- The turn and the single generation that are put together of the answers of a
conversation correspond to each other. -/
theorem returned_iff {streaming : Bool}
    {ended : Except Failure Generation → Prop}
    (speak : ∀ generation, ended (.ok generation) →
      Speaks streaming generation) (result : Except Failure Message) :
    (∃ answered, ended answered ∧
        answered.map (fun generation => Message.assistant generation.text) =
          result) ↔
      ∃ outcome,
        (∃ answered, ended answered ∧
          answered.map (fun generation => [generation]) = outcome) ∧
        Returned streaming outcome result := by
  constructor
  · rintro ⟨failure | generation, isAnswer, rfl⟩
    · exact ⟨_, ⟨_, isAnswer, rfl⟩, .failed failure⟩
    · exact ⟨_, ⟨_, isAnswer, rfl⟩,
        .succeeded generation (speak generation isAnswer).trimmed⟩
  · rintro ⟨_, ⟨failure | generation, isAnswer, rfl⟩, returned⟩
    · cases returned
      exact ⟨_, isAnswer, rfl⟩
    · cases returned
      exact ⟨_, isAnswer, rfl⟩

/-- However it is answered, a call of one conversation performs what its
generation does, and it returns what becomes of the outcome of that: the same
failure, or the turn of the one text. The same holds of its steps, at whatever
moment it is cancelled. And whatever a client did with an answer without
candidates, or with a conversation without a generation, would make no difference
to its programs. -/
theorem call_returns_generated_text (messages : List Message) :
    let generating := client.generate options streaming [messages]
    let calling := client.call options streaming messages
    (∀ {σ : Type} (handler : Handler σ) (state : σ),
      calling.trace handler state = generating.trace handler state ∧
        (calling.run handler state).2 = (generating.run handler state).2 ∧
        ((calling.run handler state).1 = none ↔
          (generating.run handler state).1 = none) ∧
        ∀ result, (calling.run handler state).1 = some result ↔
          ∃ outcome, (generating.run handler state).1 = some outcome ∧
            Returned streaming outcome result) ∧
    (∀ events,
      ((∃ last, Run ⟨false, .running calling⟩ events last) ↔
        ∃ last, Run ⟨false, .running generating⟩ events last) ∧
      ∀ cancelled result,
        Run ⟨false, .running calling⟩ events (.endedWith cancelled result) ↔
          ∃ outcome,
            Run ⟨false, .running generating⟩ events
                (.endedWith cancelled outcome) ∧
              Returned streaming outcome result) ∧
    ∀ (noCandidate : Program (Except Failure Generation))
      (noGeneration : Program (Except Failure Message)),
      (∀ sets, client.generateOr options streaming noCandidate sets =
          client.generate options streaming sets) ∧
        client.callOr options streaming noCandidate noGeneration messages =
          calling := by
  have speak := client.answer_gives options streaming messages
  dsimp only
  rw [call_eq_answer, generate_singleton, answerAll_singleton]
  refine ⟨fun handler state => ⟨?_, ?_, ?_, ?_⟩, fun events => ⟨?_, ?_⟩, ?_⟩
  · rw [Program.trace_andThen_ok, Program.trace_andThen_ok]
  · rw [Program.run_andThen_ok, Program.run_andThen_ok]
  · rw [Program.run_andThen_ok, Program.run_andThen_ok,
      Option.map_eq_none_iff, Option.map_eq_none_iff]
  · intro result
    simp only [Program.run_andThen_ok, Option.map_eq_some_iff]
    exact returned_iff (fun generation => speak.of_run) result
  · rw [Run.finishedBy_events_iff, Run.finishedBy_events_iff]
  · intro cancelled result
    simp only [Run.finishedBy_ended_iff]
    exact returned_iff (fun generation => speak.of_steps) result
  · intro noCandidate noGeneration
    exact ⟨client.generateOr_eq options streaming noCandidate,
      (client.callOr_eq options streaming noCandidate noGeneration
        messages).trans (client.call_eq_answer options streaming messages)⟩

/-- A greeting with white space around it, as the service writes it. -/
def greetingAnswer : Answer :=
  { Answer.blank with
    choices := [⟨none, Schema.Codec.plainText.toText " hi\n"⟩] }

/-- A service that greets back. -/
def greetingBack : Surroundings Unit :=
  { acceptingAll with
    invoke := fun _ state => (.ok ⟨200, "", true, some greetingAnswer⟩, state) }

private theorem greetingBack_generates :
    (((ofKey "key").generate .none false [[.user "hello"]]).run
        greetingBack.handler ()).1 =
      some (.ok [⟨"hi", some (.assistant "hi"),
        Provider.usageInfo ⟨0, 0, 0⟩⟩]) := by
  have decoded : (ofKey "key").decode greetingAnswer =
      .ok ⟨"hi", some (.assistant "hi"), Provider.usageInfo ⟨0, 0, 0⟩⟩ :=
    Provider.decodeGeneration_of_visible _ (Json.isLiteral_writeText " hi\n")
      ⟨'h', by decide, by decide⟩
  have answered : (((ofKey "key").answer .none false [.user "hello"]).run
      greetingBack.handler ()).1 =
        some ((ofKey "key").decode greetingAnswer) := by
    rw [answer, complete, Executor.execute, Executor.attempt]
    rfl
  rw [generate_singleton, answerAll_singleton, Program.run_andThen_ok,
    answered, decoded]
  rfl

/-- The white space around the greeting is no part of the turn. -/
theorem call_trims_greeting :
    (((ofKey "key").call .none false [.user "hello"]).run
        greetingBack.handler ()).1 =
      some (.ok ⟨.assistant, "hi", none⟩) ∧
      "hi" ≠ "" ∧ Trimmed "hi".toList "hi".toList := by
  obtain ⟨_, _, ends, returns⟩ := ((ofKey "key").call_returns_generated_text
    .none false [.user "hello"]).1 greetingBack.handler ()
  rw [greetingBack_generates] at ends returns
  obtain ⟨result, called⟩ :=
    Option.ne_none_iff_exists'.mp (mt ends.mp (Option.some_ne_none _))
  obtain ⟨outcome, same, returned⟩ := (returns result).mp called
  cases same
  cases returned with
  | succeeded _ trimmed => exact ⟨called, trimmed rfl⟩

end Client

end Parley.Session
