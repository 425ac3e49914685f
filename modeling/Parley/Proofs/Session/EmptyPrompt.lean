import Parley.Proofs.Session.BatchComposition

/-!
Contract: what was sent when a call is refused for an empty prompt.

No party of a call reports an empty prompt; only the client does, for the first
conversation that has no turns for the service. It has answered every
conversation before that one by then, each over a connection of its own, so
nothing was sent exactly if there is none before it.

Owns: `Exchange.Reports`, `Program.Attributes`, and the traffic of a call that
ends with an empty prompt.
-/

namespace Parley.Session

open Parley.Chat (Generation Message)
open Parley.Provider (CallOptions Failure)
open Parley.Wire (Answer Request)

/-- Whether a party reported a failure, at once or as an item of the stream that
it opened. -/
def Exchange.Reports (failure : Failure) : Exchange → Prop
  | ⟨.connect _, answer⟩ => answer = .error failure
  | ⟨.invoke _, answer⟩ => answer = .ready (.error failure)
  | ⟨.openStream _, answer⟩ =>
      answer = .ready (.error failure) ∨
        ∃ items, answer = .ready (.ok items) ∧ .error failure ∈ items
  | _ => False

/-- Whether nothing was sent: no connection was opened, no request was made, and
no chunk was handed to the sink. -/
def SendsNothing (trace : List Exchange) : Prop :=
  trace.filterMap Exchange.connected? = [] ∧
    trace.filterMap Exchange.requested? = [] ∧
    trace.filterMap Exchange.delivered? = []

private theorem sendsNothing_of_logged (entries : List Log.Entry) :
    SendsNothing (entries.map .logged) :=
  ⟨Exchange.filterMap_logged _ (fun _ => rfl) _,
    Exchange.filterMap_logged _ (fun _ => rfl) _,
    Exchange.filterMap_logged _ (fun _ => rfl) _⟩

/-! ## Failures that a program does not raise itself -/

/-- Whether a program ends with a failure only after a party reported it. -/
abbrev Program.Attributes {α : Type} (failure : Failure) :
    Program (Except Failure α) → Prop :=
  Keeps (fun _ => True) (fun exchange => ¬ exchange.Reports failure)
    (· ≠ .error failure)

open Program (Attributes)

/-- A run in which no party reports a failure does not end with it. -/
theorem Program.Attributes.not_raised {α σ : Type} {failure : Failure}
    {handler : Handler σ} {program : Program (Except Failure α)}
    (attributes : Attributes failure program) {state : σ}
    (unreported : ∀ exchange ∈ program.trace handler state,
      ¬ exchange.Reports failure) :
    (program.run handler state).1 ≠ some (.error failure) :=
  fun raised => attributes.of_run unreported raised rfl

/-- A client that decodes a content does not find the prompt empty, unless its
decoder says so. -/
theorem Client.decode_ne_emptyPrompt {client : Client}
    (decoderSilent : ∀ content, client.decoder content ≠ .error .emptyPrompt)
    (data : Answer) : client.decode data ≠ .error .emptyPrompt := by
  unfold Client.decode Provider.decodeGeneration
  split
  · simp [Failure.noContent]
  · rename_i content _
    split
    · rename_i failure told
      intro same
      rw [Except.error.inj same] at told
      exact decoderSilent content told
    · dsimp only
      split <;> simp [Failure.noContent]

private theorem Client.complete_attributes (client : Client)
    (request : Request)
    (decoderSilent : ∀ content, client.decoder content ≠ .error .emptyPrompt) :
    Attributes .emptyPrompt (client.complete request) := by
  refine .andThen ((client.executor.attempt_keeps _ request 0 .zero).mono
    (fun _ _ => trivial) fun _ => id) ?_ fun completion _ =>
      .loggedAll _ (fun _ => trivial)
        (.done _ (client.decode_ne_emptyPrompt decoderSilent completion.data))
  rintro failure ends ⟨⟩
  generalize isResult : Except.error Failure.emptyPrompt = result at ends
  cases ends with
  | cancelled => cases isResult
  | decided attempts waited outcome unreported =>
      obtain reported | ⟨envelope, isFailure⟩ :=
        failure_of_verdict isResult.symm
      · rw [reported] at unreported
        exact unreported rfl
      · cases isFailure

private theorem streamGeneration_attributes (request : Request) :
    Attributes .emptyPrompt (streamGeneration request) := by
  refine (streamGeneration_keeps _ request).mono (fun _ _ => trivial) ?_
  rintro result ends rfl
  cases ends with
  | refused failure unreported => exact unreported (.inl rfl)
  | opened items unreported relayed =>
      cases relayed with
      | broken failure isItem => exact unreported (.inr ⟨items, rfl, isItem⟩)

/-! ## Conversations -/

namespace Client

variable (client : Client) (options : CallOptions) (streaming : Bool)
  {σ : Type} (handler : Handler σ)

/-- Whether the request of a conversation has turns. -/
def isUsable (messages : List Message) : Bool :=
  !(Provider.toRequest client.defaults options messages).prompt.isEmpty

/-- A conversation without turns for the service is refused after nothing but
the log. -/
theorem answer_of_unusable {messages : List Message}
    (unusable : client.isUsable options messages = false) (state : σ) :
    ((client.answer options streaming messages).run handler state).1 =
        some (.error .emptyPrompt) ∧
      (client.answer options streaming messages).trace handler state =
        (droppedEntries messages).map .logged := by
  rw [isUsable, Bool.not_eq_false'] at unusable
  obtain ⟨after, result, performed⟩ := Program.loggedAll_passes handler
    (droppedEntries messages) _ state
  rw [answer, result, performed, if_pos unusable]
  exact ⟨rfl, List.append_nil _⟩

/-- A conversation with turns for the service is taken to it over one
connection. -/
theorem connections_of_usable {messages : List Message}
    (usable : client.isUsable options messages = true) (state : σ) :
    ((client.answer options streaming messages).trace handler
      state).filterMap Exchange.connected? = [client.apiKey] := by
  rw [isUsable, Bool.not_eq_true'] at usable
  obtain ⟨after, _, performed⟩ := Program.loggedAll_passes handler
    (droppedEntries messages) _ state
  rw [answer, performed, usable, List.filterMap_append,
    Exchange.filterMap_logged _ (fun _ => rfl), List.nil_append,
    if_neg Bool.false_ne_true, Program.trace_perform, List.filterMap_cons]
  dsimp only [Exchange.connected?]
  congr 1
  refine List.filterMap_eq_nil_iff.mpr fun exchange member => ?_
  have serves : exchange.effect.Serves
      (Provider.toRequest client.defaults options messages) :=
    (client.connected_serves streaming _ _).of_mem_trace
      (fun _ _ => trivial) member
  exact Exchange.connected?_of_serves serves

/-- A conversation with turns for the service is not refused by the client. -/
theorem answer_attributes {messages : List Message}
    (usable : client.isUsable options messages = true)
    (decoderSilent : ∀ content, client.decoder content ≠ .error .emptyPrompt) :
    Attributes .emptyPrompt (client.answer options streaming messages) := by
  rw [isUsable, Bool.not_eq_true'] at usable
  refine .loggedAll _ (fun _ => trivial) ?_
  rw [usable]
  refine .perform trivial ?_
  rintro (failure | ⟨⟨⟩⟩) unreported
  · refine .done _ fun same => unreported ?_
    rw [Except.error.inj same]
    rfl
  · cases streaming with
    | false => exact client.complete_attributes _ decoderSilent
    | true => exact streamGeneration_attributes _

/-- If the first conversation is refused, no other is taken up. -/
theorem trace_answerAll_of_unusable {messages : List Message}
    (rest : List (List Message))
    (unusable : client.isUsable options messages = false) (state : σ) :
    ((client.answerAll options streaming (messages :: rest)).run handler
        state).1 = some (.error .emptyPrompt) ∧
      (client.answerAll options streaming (messages :: rest)).trace handler
          state = (droppedEntries messages).map .logged := by
  obtain ⟨result, performed⟩ :=
    answer_of_unusable client options streaming handler unusable state
  rw [answerAll, Program.run_andThen, Program.trace_andThen, performed]
  generalize (client.answer options streaming messages).run handler state =
    ran at result ⊢
  obtain ⟨ended, after⟩ := ran
  obtain rfl : ended = some (.error .emptyPrompt) := result
  exact ⟨rfl, List.append_nil _⟩

variable {client options streaming handler}

/-- A list of conversations that is refused was answered up to the first one
without turns, each over a connection of its own. -/
theorem answerAll_of_emptyPrompt {sets : List (List Message)} {state : σ}
    (decoderSilent : ∀ content, client.decoder content ≠ .error .emptyPrompt)
    (unreported : ∀ exchange ∈
      (client.answerAll options streaming sets).trace handler state,
        ¬ exchange.Reports .emptyPrompt)
    (refused : ((client.answerAll options streaming sets).run handler
      state).1 = some (.error .emptyPrompt)) :
    (∃ unusable after,
        sets = sets.takeWhile (client.isUsable options) ++
          unusable :: after) ∧
      ((client.answerAll options streaming sets).trace handler
          state).filterMap Exchange.connected? =
        (sets.takeWhile (client.isUsable options)).map
          fun _ => client.apiKey := by
  -- An answered conversation raises no refusal itself, so the refusal is that of
  -- the rest, and the connections of the front are added to those of the rest.
  induction sets generalizing state with
  | nil => cases refused
  | cons messages rest inductionHypothesis =>
      cases usable : client.isUsable options messages with
      | false =>
          rw [List.takeWhile_cons_of_neg (Bool.eq_false_iff.mp usable),
            (trace_answerAll_of_unusable client options streaming handler rest
              usable state).2]
          exact ⟨⟨messages, rest, rfl⟩,
            Exchange.filterMap_logged _ (fun _ => rfl) _⟩
      | true =>
          have connections :=
            connections_of_usable client options streaming handler usable state
          have unraised := (answer_attributes client options streaming usable
            decoderSilent).not_raised fun exchange member =>
              unreported exchange (by
                rw [answerAll, Program.trace_andThen]
                exact List.mem_append_left _ member)
          rw [List.takeWhile_cons_of_pos usable]
          rw [answerAll, Program.run_andThen] at refused
          rw [answerAll, Program.trace_andThen] at unreported ⊢
          generalize (client.answer options streaming messages).run handler
            state = ran at refused unreported unraised ⊢
          obtain ⟨_ | failure | generation, after⟩ := ran
          · cases refused
          · obtain rfl := Except.error.inj (Option.some.inj refused)
            exact (unraised rfl).elim
          · dsimp only at refused unreported ⊢
            rw [Program.run_andThen_ok_error] at refused
            rw [Program.trace_andThen_ok] at unreported ⊢
            obtain ⟨⟨unusable, last, split⟩, later⟩ := inductionHypothesis
              (fun exchange member => unreported exchange
                (List.mem_append_right _ member)) refused
            rw [List.filterMap_append, connections, later]
            exact ⟨⟨unusable, last, congrArg (messages :: ·) split⟩, rfl⟩

/-! ## Calls -/

/-- The same holds of a whole call, if it has any conversation. -/
theorem generate_of_emptyPrompt {sets : List (List Message)} {state : σ}
    (nonempty : sets ≠ [])
    (decoderSilent : ∀ content, client.decoder content ≠ .error .emptyPrompt)
    (unreported : ∀ exchange ∈
      (client.generate options streaming sets).trace handler state,
        ¬ exchange.Reports .emptyPrompt)
    (refused : ((client.generate options streaming sets).run handler
      state).1 = some (.error .emptyPrompt)) :
    (∃ unusable after,
        sets = sets.takeWhile (client.isUsable options) ++
          unusable :: after) ∧
      ((client.generate options streaming sets).trace handler
          state).filterMap Exchange.connected? =
        (sets.takeWhile (client.isUsable options)).map
          fun _ => client.apiKey := by
  rw [generate_of_ne_nil client options streaming nonempty]
    at unreported refused ⊢
  obtain ⟨after, ran, performed⟩ := Program.loggedAll_passes handler
    (sharedSinkEntries streaming sets.length)
    (client.answerAll options streaming sets) state
  rw [performed] at unreported ⊢
  rw [ran] at refused
  rw [List.filterMap_append, Exchange.filterMap_logged _ (fun _ => rfl),
    List.nil_append]
  exact answerAll_of_emptyPrompt decoderSilent
    (fun exchange member =>
      unreported exchange (List.mem_append_right _ member)) refused

variable (client options streaming handler)

/-- A call whose first conversation has no turns, or that has no conversation at
all, is refused and sends nothing. -/
theorem generate_of_unusable {sets : List (List Message)}
    (unusable : sets.takeWhile (client.isUsable options) = []) (state : σ) :
    ((client.generate options streaming sets).run handler state).1 =
        some (.error .emptyPrompt) ∧
      SendsNothing
        ((client.generate options streaming sets).trace handler state) := by
  cases sets with
  | nil => exact ⟨rfl, rfl, rfl, rfl⟩
  | cons messages rest =>
      have first : client.isUsable options messages = false := by
        cases usable : client.isUsable options messages with
        | false => rfl
        | true =>
            rw [List.takeWhile_cons_of_pos usable] at unusable
            cases unusable
      rw [generate_of_ne_nil client options streaming (List.cons_ne_nil _ _)]
      obtain ⟨after, result, performed⟩ := Program.loggedAll_passes handler
        (sharedSinkEntries streaming (messages :: rest).length)
        (client.answerAll options streaming (messages :: rest)) state
      obtain ⟨refused, silent⟩ := trace_answerAll_of_unusable client options
        streaming handler rest first after
      rw [result, performed, silent, ← List.map_append]
      exact ⟨refused, sendsNothing_of_logged _⟩

/-- A call that is refused for an empty prompt has answered the conversations up
to the first one without turns. So nothing was sent exactly if that is the first
of all, and whenever it is, the call is refused and sends nothing. -/
theorem generate_sends_nothing_iff_refused_at_first
    (sets : List (List Message)) (state : σ) :
    let answered := sets.takeWhile (client.isUsable options)
    let result :=
      ((client.generate options streaming sets).run handler state).1
    let trace := (client.generate options streaming sets).trace handler state
    (answered = [] →
      result = some (.error .emptyPrompt) ∧ SendsNothing trace) ∧
    ((∀ content, client.decoder content ≠ .error .emptyPrompt) →
      (∀ exchange ∈ trace, ¬ exchange.Reports .emptyPrompt) →
      result = some (.error .emptyPrompt) →
      (sets ≠ [] → answered ≠ sets) ∧
        trace.filterMap Exchange.connected? =
          answered.map (fun _ => client.apiKey) ∧
        (SendsNothing trace ↔ answered = [])) := by
  intro answered result trace
  refine ⟨fun noneAnswered =>
    generate_of_unusable client options streaming handler noneAnswered state,
    ?_⟩
  intro decoderSilent unreported refused
  by_cases noSets : sets = []
  · subst noSets
    exact ⟨fun someSets => absurd rfl someSets, rfl,
      fun _ => rfl, fun _ => ⟨rfl, rfl, rfl⟩⟩
  obtain ⟨⟨unusable, last, split⟩, connected⟩ :=
    generate_of_emptyPrompt noSets decoderSilent unreported refused
  refine ⟨fun _ whole => ?_, connected, ?_, fun noneAnswered =>
    (generate_of_unusable client options streaming handler noneAnswered
      state).2⟩
  · have sameLength := congrArg List.length split
    rw [show sets.takeWhile (client.isUsable options) = sets from whole,
      List.length_append, List.length_cons] at sameLength
    omega
  · intro silent
    rw [silent.1] at connected
    exact List.map_eq_nil_iff.mp connected.symm

/-- A call of two conversations, the second of which has no turns for the
service. -/
def greetingThenRules : Program (Except Failure (List Generation)) :=
  (Client.ofKey "key").generate .none true
    [[.user "hi"], [.system "be brief"]]

/-- The empty prompt of a later conversation is noticed after the earlier one was
sent and its answer was handed to the sink. -/
theorem greeting_sent_before_emptyPrompt :
    (echoing.run greetingThenRules ()).1 = some (.error .emptyPrompt) ∧
      let trace := echoing.trace greetingThenRules ()
      trace.filterMap Exchange.connected? = ["key"] ∧
        (trace.filterMap Exchange.requested?).length = 1 ∧
        (trace.filterMap Exchange.delivered?).length = 1 :=
  ⟨rfl, rfl, rfl, rfl⟩

private theorem echoing_reports_nothing (failure : Failure) (effect : Effect) :
    ¬ Exchange.Reports failure ⟨effect, (echoing.handler effect ()).1⟩ := by
  cases effect with
  | openStream request =>
      rintro (failed | ⟨items, opened, member⟩)
      · cases failed
      · injection opened with opened
        injection opened with opened
        subst opened
        obtain ⟨turn, _, isItem⟩ := List.mem_map.mp member
        cases isItem
  | connect | invoke | awaitItem | deliver | drawJitter | sleep | log =>
      intro reported
      cases reported

private theorem literalContent_ne_emptyPrompt (content : String) :
    Provider.literalContent content ≠ .error .emptyPrompt := by
  rw [Provider.literalContent]
  intro refused
  cases read : Schema.Codec.plainText.parse content <;>
    rw [read] at refused <;> cases refused

/-- Nothing but the first conversation decides whether anything was sent. -/
theorem greetingThenRules_sends :
    (echoing.run greetingThenRules ()).1 = some (.error .emptyPrompt) ∧
      ¬ SendsNothing (echoing.trace greetingThenRules ()) := by
  refine ⟨rfl, fun silent => ?_⟩
  have contract := generate_sends_nothing_iff_refused_at_first
    (Client.ofKey "key") .none true echoing.handler
    [[.user "hi"], [.system "be brief"]] ()
  have traffic := contract.2 literalContent_ne_emptyPrompt
    (fun exchange member => Program.of_mem_trace
      (fun exchange => ¬ exchange.Reports .emptyPrompt)
      (fun effect _ => echoing_reports_nothing .emptyPrompt effect) member)
    rfl
  cases traffic.2.2.mp silent

end Client

end Parley.Session
