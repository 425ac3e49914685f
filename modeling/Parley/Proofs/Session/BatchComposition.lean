import Parley.Proofs.Session.Confinement
import Parley.Proofs.Session.Surroundings
import Parley.Proofs.Text.Utf8

/-!
Contract: several conversations are answered like one after the other.

What answers a list of conversations answers its front first and, only if that
succeeds, the rest from the state that the front left behind. So each
conversation is answered as if it were alone, and its request holds nothing of
another.

Owns: `Surroundings.reached`, `Surroundings.AnswersInTurn` and its companions, and
the composition of `Client.generate`.
-/

namespace Parley.Session

open Parley.Chat (Generation Message)
open Parley.Provider (CallOptions Failure)

/-! ## Requests -/

theorem Exchange.connected?_of_serves {request : Wire.Request}
    {exchange : Exchange} (serves : exchange.effect.Serves request) :
    exchange.connected? = none := by
  obtain ⟨effect, answer⟩ := exchange
  cases effect <;> first | rfl | exact serves.elim

private theorem Exchange.requested?_of_serves {request sent : Wire.Request}
    {exchange : Exchange} (serves : exchange.effect.Serves request)
    (isSent : exchange.requested? = some sent) : sent = request := by
  obtain ⟨effect, answer⟩ := exchange
  cases effect with
  | invoke other =>
      obtain rfl := Option.some.inj isSent
      exact serves
  | openStream other =>
      obtain rfl := Option.some.inj isSent
      exact serves
  | connect | awaitItem | deliver | drawJitter | sleep | log => cases isSent

/-- The prompt of a request holds the turns of the defaults and then those of the
conversation that the service has a role for. -/
theorem toRequest_prompt (defaults : Wire.Request) (options : CallOptions)
    (messages : List Message) :
    (Provider.toRequest defaults options messages).prompt =
      defaults.prompt ++ messages.filterMap fun message =>
        match message.role with
        | .assistant => some ⟨.assistant, message.content⟩
        | .user => some ⟨.user, message.content⟩
        | .generic => some ⟨.user, message.content⟩
        | .system => none
        | .function => none
        | .tool => none := by
  show defaults.prompt ++ messages.filterMap Provider.turn? = _
  congr 2
  funext message
  rw [Provider.turn?]
  cases message.role <;> rfl

/-! ## Programs of several conversations -/

namespace Client

variable (client : Client) (options : CallOptions) (streaming : Bool)

/-- The program of a list of conversations is that of its front, followed by that
of the rest. -/
theorem answerAll_append (front back : List (List Message)) :
    client.answerAll options streaming (front ++ back) =
      (client.answerAll options streaming front).andThen fun earlier =>
        (client.answerAll options streaming back).andThen fun later =>
          .done (.ok (earlier ++ later)) := by
  induction front with
  | nil => exact (Program.andThen_done _).symm
  | cons messages front inductionHypothesis =>
      rw [List.cons_append, answerAll, answerAll, inductionHypothesis,
        Program.andThen_assoc]
      congr 1
      funext generation
      rw [Program.andThen_assoc, Program.andThen_assoc]
      congr 1
      funext earlier
      exact Program.andThen_assoc _ _ _

/-- A single conversation is answered by its own program. -/
theorem answerAll_singleton (messages : List Message) :
    client.answerAll options streaming [messages] =
      (client.answer options streaming messages).andThen fun generation =>
        .done (.ok [generation]) :=
  rfl

theorem generate_of_ne_nil {sets : List (List Message)} (nonempty : sets ≠ []) :
    client.generate options streaming sets =
      .loggedAll (sharedSinkEntries streaming sets.length)
        (client.answerAll options streaming sets) := by
  rw [generate, if_neg (mt List.isEmpty_iff.mp nonempty)]

theorem generate_singleton (messages : List Message) :
    client.generate options streaming [messages] =
      client.answerAll options streaming [messages] := by
  rw [generate_of_ne_nil client options streaming (List.cons_ne_nil _ _)]
  have silent : sharedSinkEntries streaming [messages].length = [] := by
    simp only [sharedSinkEntries, List.length_singleton, Nat.lt_irrefl,
      decide_false, Bool.and_false, Bool.false_eq_true, if_false]
  rw [silent]
  rfl

end Client

namespace Surroundings

variable {σ : Type} (world : Surroundings σ) (client : Client)
  (options : CallOptions) (streaming : Bool)

/-- The conversations that are reached, and the state in which each of them is:
every one but the first only if the one before it was answered, in the state that
this left behind. -/
def reached : List (List Message) → σ → List (List Message × σ)
  | [], _ => []
  | messages :: rest, state =>
      (messages, state) ::
        match world.run (client.generate options streaming [messages]) state with
        | (some (.ok _), after) => reached rest after
        | _ => []

/-- The warning about several conversations that share a sink. -/
def warnings (sets : List (List Message)) : List Exchange :=
  (Client.sharedSinkEntries streaming sets.length).map .logged

/-! ## Runs of a front and of the rest -/

theorem run_generate {sets : List (List Message)} (nonempty : sets ≠ [])
    (state : σ) :
    world.run (client.generate options streaming sets) state =
      world.run (client.answerAll options streaming sets) state := by
  rw [Client.generate_of_ne_nil client options streaming nonempty, run,
    run_loggedAll]

theorem trace_generate (sets : List (List Message)) (state : σ) :
    world.trace (client.generate options streaming sets) state =
      warnings streaming sets ++
        world.trace (client.answerAll options streaming sets) state := by
  cases sets with
  | nil => cases streaming <;> rfl
  | cons messages rest =>
      rw [Client.generate_of_ne_nil client options streaming
        (List.cons_ne_nil _ _), trace, trace_loggedAll]
      rfl

/-- What becomes of a list of conversations behind a front that ended. -/
theorem run_answerAll_append (front back : List (List Message)) (state : σ) :
    world.run (client.answerAll options streaming (front ++ back)) state =
      match world.run (client.answerAll options streaming front) state with
      | (some (.ok earlier), after) =>
          ((world.run (client.answerAll options streaming back) after).1.map
              (·.map (earlier ++ ·)),
            (world.run (client.answerAll options streaming back) after).2)
      | ended => ended := by
  unfold run
  rw [Client.answerAll_append, Program.run_andThen]
  rcases (client.answerAll options streaming front).run world.handler state with
    ⟨_ | _ | earlier, after⟩
  · rfl
  · rfl
  · dsimp only
    rw [Program.run_andThen]
    rcases (client.answerAll options streaming back).run world.handler after
      with ⟨_ | _ | later, last⟩ <;> rfl

theorem trace_answerAll_append (front back : List (List Message)) (state : σ) :
    world.trace (client.answerAll options streaming (front ++ back)) state =
      world.trace (client.answerAll options streaming front) state ++
        match world.run (client.answerAll options streaming front) state with
        | (some (.ok _), after) =>
            world.trace (client.answerAll options streaming back) after
        | _ => [] := by
  unfold trace run
  rw [Client.answerAll_append, Program.trace_andThen]
  congr 1
  rcases (client.answerAll options streaming front).run world.handler state with
    ⟨_ | _ | earlier, after⟩
  · rfl
  · rfl
  · exact Program.trace_andThen_ok _ _ (earlier ++ ·) after

/-! ## The conversations that are reached -/

private theorem run_singleton_ok {messages : List Message} {state after : σ}
    {generations : List Generation}
    (succeeded : world.run (client.generate options streaming [messages])
      state = (some (.ok generations), after)) :
    ∃ generation, generations = [generation] := by
  unfold run at succeeded
  rw [Client.generate_singleton, Client.answerAll_singleton,
    Program.run_andThen] at succeeded
  split at succeeded
  · rename_i generation _ _
    have same := Option.some.inj (Prod.mk.inj succeeded).1
    exact ⟨generation, (Except.ok.inj same).symm⟩
  · exact nomatch succeeded
  · exact nomatch succeeded

private theorem reached_isPrefix (sets : List (List Message)) (state : σ) :
    (world.reached client options streaming sets state).map Prod.fst <+:
      sets := by
  induction sets generalizing state with
  | nil => exact List.nil_prefix
  | cons messages rest inductionHypothesis =>
      rw [reached]
      refine (List.prefix_cons_inj messages).mpr ?_
      split
      · exact inductionHypothesis _
      · exact List.nil_prefix

/-- Each conversation that is reached is answered as if it were alone. -/
theorem trace_answerAll (sets : List (List Message)) (state : σ) :
    world.trace (client.answerAll options streaming sets) state =
      (world.reached client options streaming sets state).flatMap
        fun conversation =>
          world.trace (client.generate options streaming [conversation.1])
            conversation.2 := by
  induction sets generalizing state with
  | nil => rfl
  | cons messages rest inductionHypothesis =>
      rw [← List.singleton_append, trace_answerAll_append,
        List.singleton_append, reached, List.flatMap_cons,
        ← Client.generate_singleton]
      congr 1
      rcases world.run (client.generate options streaming [messages]) state
        with ⟨_ | _ | earlier, after⟩
      · rfl
      · rfl
      · exact inductionHypothesis after

/-- If all conversations are answered, then each is reached, and it is answered
alone with the generation in its place. -/
theorem generations_of_reached {sets : List (List Message)} {state : σ}
    {generations : List Generation}
    (succeeded : (world.run (client.answerAll options streaming sets)
      state).1 = some (.ok generations)) :
    (world.reached client options streaming sets state).map Prod.fst = sets ∧
      (world.reached client options streaming sets state).map
          (fun conversation =>
            (world.run (client.generate options streaming [conversation.1])
              conversation.2).1) =
        generations.map fun generation => some (.ok [generation]) := by
  induction sets generalizing state generations with
  | nil =>
      obtain rfl := Except.ok.inj (Option.some.inj succeeded)
      exact ⟨rfl, rfl⟩
  | cons messages rest inductionHypothesis =>
      rw [← List.singleton_append, run_answerAll_append,
        ← Client.generate_singleton] at succeeded
      rw [reached, List.map_cons, List.map_cons]
      obtain ⟨⟨result, after⟩, ran⟩ : ∃ ran,
        world.run (client.generate options streaming [messages]) state =
          ran := ⟨_, rfl⟩
      rw [ran] at succeeded ⊢
      rcases result with _ | _ | earlier
      · exact nomatch succeeded
      · exact nomatch succeeded
      · obtain ⟨generation, rfl⟩ :=
          world.run_singleton_ok client options streaming ran
        obtain ⟨_ | later, isLater, whole⟩ :=
          Option.map_eq_some_iff.mp succeeded
        · exact nomatch whole
        · obtain rfl := Except.ok.inj whole
          obtain ⟨everyOne, inTurn⟩ := inductionHypothesis isLater
          exact ⟨congrArg (messages :: ·) everyOne,
            congrArg (some (.ok [generation]) :: ·) inTurn⟩

/-! ## A conversation alone -/

theorem trace_generate_singleton (messages : List Message) (state : σ) :
    world.trace (client.generate options streaming [messages]) state =
      world.trace (client.answer options streaming messages) state := by
  rw [Client.generate_singleton, Client.answerAll_singleton, trace,
    Program.trace_andThen_ok, trace]

/-- A conversation without turns for the service is not taken to it. -/
theorem trace_of_empty_prompt {messages : List Message}
    (empty : (Provider.toRequest client.defaults options messages).prompt = [])
    (state : σ) :
    world.trace (client.generate options streaming [messages]) state =
      (Client.droppedEntries messages).map .logged := by
  rw [trace_generate_singleton, Client.answer, trace, trace_loggedAll,
    if_pos (List.isEmpty_iff.mpr empty)]
  exact List.append_nil _

/-- A conversation with turns opens one connection, and sends only its own request
over it. -/
theorem trace_of_prompt {messages : List Message}
    (nonempty : (Provider.toRequest client.defaults options messages).prompt ≠ [])
    (state : σ) :
    ∃ opened rest,
      world.trace (client.generate options streaming [messages]) state =
          (Client.droppedEntries messages).map .logged ++
            ⟨.connect client.apiKey, opened⟩ :: rest ∧
        rest.filterMap Exchange.connected? = [] ∧
        ∀ sent ∈ rest.filterMap Exchange.requested?,
          sent = Provider.toRequest client.defaults options messages := by
  rw [trace_generate_singleton, Client.answer, trace, trace_loggedAll,
    if_neg (mt List.isEmpty_iff.mp nonempty), Program.trace_perform]
  have serves := client.connected_serves streaming
    (Provider.toRequest client.defaults options messages)
    (world.handler (.connect client.apiKey) state).1
  refine ⟨_, _, rfl, ?_, ?_⟩
  · apply List.filterMap_eq_nil_iff.mpr
    intro exchange member
    exact Exchange.connected?_of_serves
      (serves.of_mem_trace (fun _ _ => trivial) member)
  · intro sent member
    obtain ⟨exchange, isMember, isSent⟩ := List.mem_filterMap.mp member
    exact Exchange.requested?_of_serves
      (serves.of_mem_trace (fun _ _ => trivial) isMember) isSent

private theorem connections_alone (messages : List Message) (state : σ) :
    (world.trace (client.generate options streaming [messages])
        state).filterMap Exchange.connected? =
      if (Provider.toRequest client.defaults options messages).prompt.isEmpty
      then [] else [client.apiKey] := by
  split
  · rename_i empty
    rw [world.trace_of_empty_prompt client options streaming
      (List.isEmpty_iff.mp empty)]
    exact Exchange.filterMap_logged _ (fun _ => rfl) _
  · rename_i nonempty
    obtain ⟨opened, rest, performed, noOther, _⟩ :=
      world.trace_of_prompt client options streaming
        (mt List.isEmpty_iff.mpr nonempty) state
    rw [performed, List.filterMap_append,
      Exchange.filterMap_logged _ (fun _ => rfl), List.nil_append,
      List.filterMap_cons, noOther]
    rfl

/-- A connection is opened for every conversation that is reached and has turns
for the service. -/
theorem connections (sets : List (List Message)) (state : σ) :
    (world.trace (client.answerAll options streaming sets) state).filterMap
        Exchange.connected? =
      ((world.reached client options streaming sets state).filter
        fun conversation =>
          !(Provider.toRequest client.defaults options
            conversation.1).prompt.isEmpty).map fun _ => client.apiKey := by
  rw [trace_answerAll]
  induction world.reached client options streaming sets state with
  | nil => rfl
  | cons conversation later inductionHypothesis =>
      rw [List.flatMap_cons, List.filterMap_append, inductionHypothesis,
        connections_alone, List.filter_cons]
      cases (Provider.toRequest client.defaults options
        conversation.1).prompt.isEmpty with
      | true => rfl
      | false => rfl

/-! ## Batches -/

/-- What becomes of a list of conversations behind a front that ended: it is
answered from the state that the front left behind, if the front succeeded, and
it is not taken up otherwise. `back` is what is performed for it, and `ran` is the
run of the front and the list together. -/
def GoesOn (second : List (List Message)) (back : List Exchange)
    (ran : Option (Except Failure (List Generation)) × σ) :
    Option (Except Failure (List Generation)) × σ → Prop
  | (some (.ok earlier), after) =>
      world.trace (client.generate options streaming second) after =
          warnings streaming second ++ back ∧
        ran =
          ((world.run (client.generate options streaming second)
              after).1.map (·.map (earlier ++ ·)),
            (world.run (client.generate options streaming second) after).2)
  | ended => back = [] ∧ ran = ended

/-- Whether answering two lists of conversations is answering the first and then
the second, but for the warnings. -/
def AnswersInTurn (first second : List (List Message)) (state : σ) : Prop :=
  ∃ front back,
    world.trace (client.generate options streaming first) state =
        warnings streaming first ++ front ∧
      world.trace (client.generate options streaming (first ++ second)) state =
        warnings streaming (first ++ second) ++ (front ++ back) ∧
      world.GoesOn client options streaming second back
        (world.run (client.generate options streaming (first ++ second)) state)
        (world.run (client.generate options streaming first) state)

/-- Whether the conversations of a list are answered in order and each as if it
were alone, over a connection of its own if it has turns for the service. -/
structure AnswersOneByOne (sets : List (List Message)) (state : σ) : Prop where
  inOrder : (world.reached client options streaming sets state).map Prod.fst <+:
    sets
  performed : world.trace (client.generate options streaming sets) state =
    warnings streaming sets ++
      (world.reached client options streaming sets state).flatMap
        fun conversation =>
          world.trace (client.generate options streaming [conversation.1])
            conversation.2
  succeeded : ∀ generations,
    (world.run (client.generate options streaming sets) state).1 =
        some (.ok generations) →
      generations.length = sets.length ∧
        (world.reached client options streaming sets state).map Prod.fst =
          sets ∧
        (world.reached client options streaming sets state).map
            (fun conversation =>
              (world.run (client.generate options streaming [conversation.1])
                conversation.2).1) =
          generations.map fun generation => some (.ok [generation])
  connected : (world.trace (client.generate options streaming sets)
      state).filterMap Exchange.connected? =
    ((world.reached client options streaming sets state).filter
      fun conversation =>
        !(Provider.toRequest client.defaults options
          conversation.1).prompt.isEmpty).map fun _ => client.apiKey

/-- Whether a conversation that is answered alone sends the turns of the defaults
and its own over one connection, and nothing else, or nothing at all if there are
none. -/
structure SendsOwnTurns (messages : List Message) (state : σ) : Prop where
  prompt : (Provider.toRequest client.defaults options messages).prompt =
    client.defaults.prompt ++ messages.filterMap fun message =>
      match message.role with
      | .assistant => some ⟨.assistant, message.content⟩
      | .user => some ⟨.user, message.content⟩
      | .generic => some ⟨.user, message.content⟩
      | .system => none
      | .function => none
      | .tool => none
  withoutTurns :
    (Provider.toRequest client.defaults options messages).prompt = [] →
      world.trace (client.generate options streaming [messages]) state =
        (Client.droppedEntries messages).map .logged
  withTurns :
    (Provider.toRequest client.defaults options messages).prompt ≠ [] →
      ∃ opened rest,
        world.trace (client.generate options streaming [messages]) state =
            (Client.droppedEntries messages).map .logged ++
              ⟨.connect client.apiKey, opened⟩ :: rest ∧
          rest.filterMap Exchange.connected? = [] ∧
          ∀ sent ∈ rest.filterMap Exchange.requested?,
            sent = Provider.toRequest client.defaults options messages

private theorem answersInTurn {first second : List (List Message)} (state : σ)
    (someFirst : first ≠ []) (someSecond : second ≠ []) :
    world.AnswersInTurn client options streaming first second state := by
  have someBoth : first ++ second ≠ [] :=
    List.append_ne_nil_of_left_ne_nil someFirst second
  refine ⟨_, _, world.trace_generate client options streaming first state,
    (world.trace_generate client options streaming (first ++ second)
      state).trans (congrArg _ (world.trace_answerAll_append client options
        streaming first second state)), ?_⟩
  rw [world.run_generate client options streaming someFirst,
    world.run_generate client options streaming someBoth,
    world.run_answerAll_append]
  rcases world.run (client.answerAll options streaming first) state with
    ⟨_ | _ | earlier, after⟩
  · exact ⟨rfl, rfl⟩
  · exact ⟨rfl, rfl⟩
  · dsimp only [GoesOn]
    rw [world.run_generate client options streaming someSecond]
    exact ⟨world.trace_generate client options streaming second after, rfl⟩

private theorem succeeded_one_by_one {sets : List (List Message)} {state : σ}
    {generations : List Generation}
    (succeeded : (world.run (client.generate options streaming sets) state).1 =
      some (.ok generations)) :
    generations.length = sets.length ∧
      (world.reached client options streaming sets state).map Prod.fst = sets ∧
      (world.reached client options streaming sets state).map
          (fun conversation =>
            (world.run (client.generate options streaming [conversation.1])
              conversation.2).1) =
        generations.map fun generation => some (.ok [generation]) := by
  have nonempty : sets ≠ [] := by
    rintro rfl
    exact nomatch succeeded
  rw [world.run_generate client options streaming nonempty] at succeeded
  obtain ⟨everyOne, inTurn⟩ :=
    world.generations_of_reached client options streaming succeeded
  refine ⟨?_, everyOne, inTurn⟩
  have sameLength := congrArg List.length inTurn
  have reachedAll := congrArg List.length everyOne
  rw [List.length_map] at reachedAll
  rw [List.length_map, List.length_map] at sameLength
  exact sameLength.symm.trans reachedAll

private theorem answersOneByOne (sets : List (List Message)) (state : σ) :
    world.AnswersOneByOne client options streaming sets state where
  inOrder := world.reached_isPrefix client options streaming sets state
  performed := by
    rw [trace_generate, trace_answerAll]
  succeeded _ := world.succeeded_one_by_one client options streaming
  connected := by
    rw [trace_generate, List.filterMap_append, warnings,
      Exchange.filterMap_logged _ (fun _ => rfl), List.nil_append, connections]

private theorem sendsOwnTurns (messages : List Message) (state : σ) :
    world.SendsOwnTurns client options streaming messages state where
  prompt := toRequest_prompt _ _ _
  withoutTurns empty :=
    world.trace_of_empty_prompt client options streaming empty state
  withTurns nonempty :=
    world.trace_of_prompt client options streaming nonempty state

/-- Answering two lists of conversations is answering the first and then, only if
that succeeded, the second from the state that the first left behind, but for the
warning about a shared sink. So each conversation that is reached is answered as
if it were alone, over one connection of its own if it has turns for the service,
and each request holds the turns of the defaults and of its conversation. -/
theorem generate_is_sequential_composition :
    (∀ (first second : List (List Message)) (state : σ),
      first ≠ [] → second ≠ [] →
      world.AnswersInTurn client options streaming first second state) ∧
    ∀ (sets : List (List Message)) (state : σ),
      world.AnswersOneByOne client options streaming sets state ∧
      ∀ conversation ∈ world.reached client options streaming sets state,
        world.SendsOwnTurns client options streaming conversation.1
          conversation.2 := by
  constructor
  · intro first second state someFirst someSecond
    exact world.answersInTurn client options streaming state someFirst
      someSecond
  · intro sets state
    refine ⟨world.answersOneByOne client options streaming sets state, ?_⟩
    intro conversation _
    exact world.sendsOwnTurns client options streaming conversation.1
      conversation.2

end Surroundings

/-- A service that streams the turns of a request back. -/
def echoing : Surroundings Unit :=
  { acceptingAll with
    openStream := fun request state =>
      (.ok (request.prompt.map fun turn =>
        .ok ⟨"add", Text.Utf8.encode turn.content⟩), state) }

/-- Two greetings in a row are answered in their order. -/
theorem Surroundings.generate_two_greetings :
    ∃ generations,
      (echoing.run ((Client.ofKey "key").generate .none true
          ([[.user "good morning"]] ++ [[.user "good night"]])) ()).1 =
        some (.ok generations) ∧
      generations.map (·.text) = ["good morning", "good night"] := by
  obtain ⟨front, back, _, _, inTurn⟩ :=
    (generate_is_sequential_composition echoing (Client.ofKey "key")
      .none true).1 [[.user "good morning"]] [[.user "good night"]] ()
      (List.cons_ne_nil _ _) (List.cons_ne_nil _ _)
  refine ⟨_, congrArg Prod.fst inTurn.2, ?_⟩
  have echoed : ∀ text, Text.Utf8.decodeLossy
      [Text.Utf8.encode text].reverse.flatten = text := by
    intro text
    rw [List.reverse_singleton, List.flatten_singleton,
      Text.Utf8.decodeLossy_encode]
  exact congr (congrArg (fun first second => [first, second])
    (echoed "good morning")) (echoed "good night")

end Parley.Session
