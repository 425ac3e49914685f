import Parley.Proofs.Http.EventStream
import Parley.Proofs.Json.Writer
import Parley.Proofs.Session.EmptyPrompt

/-!
Contract: streamed calls that the service answers with an envelope.

The service answers single calls with an envelope, and refuses calls with one. A
streamed call looks for events only. The text of an envelope is one line, which
nothing ends, so it holds no event: the stream is empty, and the answer of the
call is the empty text, whatever the envelope said.

Owns: `Program.Yields`, `Exchange.AnsweredByEnvelope`, and what comes of such
calls.
-/

namespace Parley.Session

open Parley.Chat (Generation Message)
open Parley.Http (OpenStream RequestId Response)
open Parley.Provider (CallOptions Failure toRequest)
open Parley.Text (Bytes Utf8.encode Utf8.decodeLossy Utf8.decodeLossy_encode)
open Parley.Wire (Envelope Request)

namespace Program

variable {α β : Type} {allowed : Exchange → Prop}

/-- Whether every run in which all exchanges are allowed succeeds with a value,
after it made requests and handed nothing to the sink. -/
structure Yields (allowed : Exchange → Prop)
    (program : Program (Except Failure α)) (value : α)
    (requests : List Request) : Prop where
  inEveryRun : ∀ {σ : Type} (handler : Handler σ) (state : σ),
    (∀ exchange ∈ program.trace handler state, allowed exchange) →
      (program.run handler state).1 = some (.ok value) ∧
        (program.trace handler state).filterMap Exchange.requested? =
          requests ∧
        (program.trace handler state).filterMap Exchange.delivered? = []

namespace Yields

theorem done (value : α) : Yields allowed (.done (.ok value)) value [] :=
  ⟨fun _ _ _ => ⟨rfl, rfl, rfl⟩⟩

/-- An effect with only one allowed answer is answered with that. -/
theorem perform (effect : Effect) (answer : effect.Answer)
    {next : effect.Answer → Program (Except Failure α)} {value : α}
    {requests : List Request}
    (only : ∀ given, allowed ⟨effect, given⟩ → given = answer)
    (undelivered : Exchange.delivered? ⟨effect, answer⟩ = none)
    (rest : Yields allowed (next answer) value requests) :
    Yields allowed (.perform effect next) value
      ((Exchange.requested? ⟨effect, answer⟩).toList ++ requests) := by
  constructor
  intro σ handler state isAllowed
  rw [trace_perform] at isAllowed
  have given : (handler effect state).1 = answer :=
    only _ (isAllowed _ List.mem_cons_self)
  rw [given] at isAllowed
  obtain ⟨result, requested, delivered⟩ := rest.inEveryRun handler
    (handler effect state).2 fun exchange member =>
      isAllowed exchange (List.mem_cons_of_mem _ member)
  rw [run_perform, trace_perform, given]
  refine ⟨result, ?_, ?_⟩
  · rw [List.filterMap_cons, requested]
    cases Exchange.requested? ⟨effect, answer⟩ <;> rfl
  · rw [List.filterMap_cons, undelivered, delivered]

theorem logged (entry : Log.Entry) {program : Program (Except Failure α)}
    {value : α} {requests : List Request}
    (rest : Yields allowed program value requests) :
    Yields allowed (.logged entry program) value requests :=
  .perform (.log entry) () (fun _ _ => rfl) rfl rest

theorem loggedAll (entries : List Log.Entry)
    {program : Program (Except Failure α)} {value : α}
    {requests : List Request} (rest : Yields allowed program value requests) :
    Yields allowed (.loggedAll entries program) value requests := by
  induction entries with
  | nil => exact rest
  | cons entry entries inductionHypothesis =>
      exact .logged entry inductionHypothesis

theorem andThen {program : Program (Except Failure α)}
    {next : α → Program (Except Failure β)} {value : α} {last : β}
    {requests more : List Request}
    (first : Yields allowed program value requests)
    (rest : Yields allowed (next value) last more) :
    Yields allowed (program.andThen next) last (requests ++ more) := by
  constructor
  intro σ handler state isAllowed
  rw [trace_andThen] at isAllowed
  obtain ⟨result, requested, delivered⟩ := first.inEveryRun handler state
    fun exchange member => isAllowed exchange (List.mem_append_left _ member)
  rw [run_andThen, trace_andThen, List.filterMap_append, List.filterMap_append,
    requested, delivered]
  generalize program.run handler state = ran at result isAllowed ⊢
  obtain ⟨ended, after⟩ := ran
  obtain rfl : ended = some (.ok value) := result
  obtain ⟨result, requested, delivered⟩ := rest.inEveryRun handler after
    fun exchange member => isAllowed exchange (List.mem_append_right _ member)
  exact ⟨result, congrArg (requests ++ ·) requested, delivered⟩

private theorem andThen_ok {program : Program (Except Failure α)} {value : α}
    {requests : List Request} (first : Yields allowed program value requests)
    (finish : α → β) :
    Yields allowed
      (program.andThen fun value => .done (.ok (finish value)))
      (finish value) requests := by
  rw [← List.append_nil requests]
  exact first.andThen (.done (finish value))

end Yields

end Program

open Program (Yields)

/-! ## Envelopes in place of streams -/

/-- The text of an envelope has no line end. -/
theorem envelope_unended (envelope : Envelope) :
    ∀ char ∈ (Envelope.codec.toText envelope).toList,
      char ≠ '\n' ∧ char ≠ '\r' := by
  intro char member
  rw [Schema.Codec.toText, Json.Value.toText, String.toList_ofList] at member
  exact (Json.Value.write_printed _).ne_lineEnd member

/-- Whether nothing hinders a streamed call, and the service answers its request
with an envelope, not coded and in whatever pieces the response arrives. -/
def Exchange.AnsweredByEnvelope : Exchange → Prop
  | ⟨.connect _, answer⟩ => answer = .ok ()
  | ⟨.openStream request, answer⟩ =>
      ∃ (id : RequestId) (response : Response) (envelope : Envelope)
        (stream : OpenStream),
        response.Holds (Envelope.codec.toText envelope) ∧
          Http.streamed id request.model (.ok response) = .ok stream ∧
          answer = .ready (.ok stream.items)
  | ⟨.awaitItem, answer⟩ => answer = .ready ()
  | _ => True

theorem Exchange.AnsweredByEnvelope.opened {request : Request}
    {answer : (Effect.openStream request).Answer}
    (answered : AnsweredByEnvelope ⟨.openStream request, answer⟩) :
    answer = .ready (.ok []) := by
  obtain ⟨id, response, envelope, stream, holds, streamed, rfl⟩ := answered
  rw [Http.streamed_of_unended_line holds (envelope_unended envelope)]
    at streamed
  obtain rfl := Except.ok.inj streamed
  rfl

private theorem relay_nil_yields :
    Yields Exchange.AnsweredByEnvelope (relay []) (.ofText "") [] := by
  have nothing : Utf8.decodeLossy ([] : List Bytes).reverse.flatten = "" :=
    Utf8.decodeLossy_encode ""
  refine .perform .awaitItem (.ready ()) (fun _ answered => answered) rfl
    (.logged _ ?_)
  rw [nothing]
  exact .done _

private theorem streamGeneration_yields (request : Request) :
    Yields Exchange.AnsweredByEnvelope (streamGeneration request)
      (.ofText "") [request] :=
  .perform (.openStream request) (.ready (.ok []))
    (fun _ answered => answered.opened) rfl relay_nil_yields

namespace Client

variable (client : Client) (options : CallOptions)

private theorem answer_yields {messages : List Message}
    (usable : client.isUsable options messages = true) :
    Yields Exchange.AnsweredByEnvelope (client.answer options true messages)
      (.ofText "") [toRequest client.defaults options messages] := by
  rw [isUsable, Bool.not_eq_true'] at usable
  refine .loggedAll _ ?_
  rw [usable]
  exact .perform (.connect client.apiKey) (.ok ())
    (fun _ answered => answered) rfl (streamGeneration_yields _)

private theorem answerAll_yields {sets : List (List Message)}
    (usable : ∀ messages ∈ sets, client.isUsable options messages = true) :
    Yields Exchange.AnsweredByEnvelope (client.answerAll options true sets)
      (sets.map fun _ => .ofText "")
      (sets.map (toRequest client.defaults options)) := by
  induction sets with
  | nil => exact .done []
  | cons messages rest inductionHypothesis =>
      have first := answer_yields client options
        (usable messages List.mem_cons_self)
      have others := inductionHypothesis fun other member =>
        usable other (List.mem_cons_of_mem _ member)
      exact first.andThen (others.andThen_ok (Generation.ofText "" :: ·))

theorem generate_yields {sets : List (List Message)} (nonempty : sets ≠ [])
    (usable : ∀ messages ∈ sets, client.isUsable options messages = true) :
    Yields Exchange.AnsweredByEnvelope (client.generate options true sets)
      (sets.map fun _ => .ofText "")
      (sets.map (toRequest client.defaults options)) := by
  rw [generate_of_ne_nil client options true nonempty]
  exact .loggedAll _ (answerAll_yields client options usable)

/-- A streamed call whose requests are answered with envelopes succeeds with
empty texts, whatever failure the envelopes report: each request is made, and
nothing is handed to the sink. -/
theorem generate_takes_envelopes_for_empty_answers {σ : Type}
    (handler : Handler σ) {sets : List (List Message)} (state : σ)
    (nonempty : sets ≠ [])
    (usable : ∀ messages ∈ sets, client.isUsable options messages = true)
    (answered : ∀ exchange ∈
      (client.generate options true sets).trace handler state,
        exchange.AnsweredByEnvelope) :
    let result := ((client.generate options true sets).run handler state).1
    let trace := (client.generate options true sets).trace handler state
    result = some (.ok (sets.map fun _ => ⟨"", none, []⟩)) ∧
      trace.filterMap Exchange.requested? =
        sets.map (toRequest client.defaults options) ∧
      trace.filterMap Exchange.delivered? = [] :=
  (generate_yields client options nonempty usable).inEveryRun handler state
    answered

end Client

/-! ## A service that refuses every call -/

/-- The response that carries an envelope, cut behind its fifth byte. -/
def carrying (envelope : Envelope) : Response :=
  let bytes := Utf8.encode (Envelope.codec.toText envelope)
  { status := .ok
    headers := [("content-type", "application/json")]
    framing := .untilClose
    pieces := [bytes.take 5, bytes.drop 5]
    staysOpen := false }

theorem carrying_holds (envelope : Envelope) :
    (carrying envelope).Holds (Envelope.codec.toText envelope) :=
  have untold : Http.tellCoding [("content-type", "application/json")] = false :=
    by decide +kernel
  Http.Response.holds_of_cut 5 rfl untold rfl

/-- The envelope of a service that is called too often. -/
def tooManyRequests : Envelope :=
  ⟨1302, "too many requests", false, none⟩

/-- What the client gets of a stream that a call opens. -/
def received :
    Except Http.Report OpenStream → Except Failure (List StreamItem)
  | .ok stream => .ok stream.items
  | .error report => .error report.failure

/-- A service that answers every streamed call with one envelope. -/
def answeringWith (envelope : Envelope) : Surroundings Unit :=
  { acceptingAll with
    openStream := fun request state =>
      (received (Http.streamed ⟨0⟩ request.model (.ok (carrying envelope))),
        state) }

theorem answeringWith_answers (envelope : Envelope) (effect : Effect) :
    Exchange.AnsweredByEnvelope
      ⟨effect, ((answeringWith envelope).handler effect ()).1⟩ := by
  cases effect with
  | openStream request =>
      have streamed := Http.streamed_of_unended_line (carrying_holds envelope)
        (envelope_unended envelope) ⟨0⟩ request.model
      refine ⟨⟨0⟩, carrying envelope, envelope, ⟨[], true⟩,
        carrying_holds envelope, streamed, ?_⟩
      show Awaited.ready (received (Http.streamed ⟨0⟩ request.model
        (.ok (carrying envelope)))) = _
      rw [streamed]
      rfl
  | connect | awaitItem => exact rfl
  | invoke | deliver | drawJitter | sleep | log => trivial

/-- A call that the service refuses succeeds. -/
theorem refusal_taken_for_empty_answer :
    (carrying tooManyRequests).Holds
        (Envelope.codec.toText tooManyRequests) ∧
      tooManyRequests.data = none ∧
      ((answeringWith tooManyRequests).run
        ((Client.ofKey "key").generate .none true [[.user "hi"]]) ()).1 =
        some (.ok [⟨"", none, []⟩]) := by
  refine ⟨carrying_holds tooManyRequests, rfl, ?_⟩
  have usable : ∀ messages ∈ [[Message.user "hi"]],
      (Client.ofKey "key").isUsable .none messages = true := by decide
  have yields := Client.generate_yields (Client.ofKey "key") .none
    (List.cons_ne_nil _ _) usable
  exact (yields.inEveryRun _ () fun exchange member =>
    Program.of_mem_trace _ (fun effect _ => answeringWith_answers _ effect)
      member).1

/-- Two refusals in a row make two empty answers. -/
theorem two_refusals_taken_for_empty_answers :
    ((answeringWith tooManyRequests).run
      ((Client.ofKey "key").generate .none true
        [[.user "hi"], [.user "bye"]]) ()).1 =
      some (.ok [⟨"", none, []⟩, ⟨"", none, []⟩]) :=
  (Client.generate_takes_envelopes_for_empty_answers (Client.ofKey "key")
    .none (answeringWith tooManyRequests).handler () (List.cons_ne_nil _ _)
    (by decide) fun exchange member =>
      Program.of_mem_trace _ (fun effect _ => answeringWith_answers _ effect)
        member).1

end Parley.Session
