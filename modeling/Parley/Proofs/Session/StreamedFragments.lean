import Parley.Proofs.Http.EventWriter
import Parley.Proofs.Session.BatchComposition
import Parley.Proofs.Session.EnvelopeInStream
import Parley.Proofs.Session.RelayContract

/-!
Contract: streamed answers arrive as they were written.

The service writes each fragment of its answer as an event. However the bytes of
the body are cut on their way, even inside a character, the sink gets the
fragments one by one, and the text of the answer is all of them together.

Owns: the relay of events to a sink that accepts everything,
`Surroundings.Streams`, and the whole way of a streamed answer.
-/

namespace Parley.Session

open Parley.Chat (Generation Message)
open Parley.Http (IsLine OpenStream RequestId Response fragmentEvent
  streamed_of_answer writeAnswer)
open Parley.Provider (CallOptions toRequest)
open Parley.Text (Bytes Utf8.encode Utf8.decodeLossy Utf8.decodeLossy_encode)
open Parley.Wire (Request)

/-! ## Payloads of an answer -/

private theorem payloads_append (front back : List StreamEvent) :
    payloads (front ++ back) = payloads front ++ payloads back := by
  rw [payloads, List.filter_append, List.map_append]
  rfl

private theorem payloads_fragments (fragments : List String) :
    payloads (fragments.map fragmentEvent) = fragments.map Utf8.encode := by
  have areChunks : ∀ event ∈ fragments.map fragmentEvent,
      (!event.isFinish) = true := by
    intro event member
    obtain ⟨fragment, _, rfl⟩ := List.mem_map.mp member
    rfl
  rw [payloads, List.filter_eq_self.mpr areChunks, List.map_map]
  rfl

/-- The marker of the end brings nothing to the sink, whatever data it has. -/
theorem payloads_finish (data : List (List Char)) :
    payloads (Http.Draft.event? ⟨"finish".toList, data⟩).toList = [] := by
  cases data <;> rfl

private theorem encode_join (fragments : List String) :
    (fragments.map Utf8.encode).flatten =
      Utf8.encode (String.join fragments) := by
  rw [Utf8.encode, String.toList_join, List.flatMap_assoc,
    ← List.flatMap_def]
  rfl

section Runs

variable {σ : Type} (world : Surroundings σ)

/-! ## A sink that accepts everything -/

/-- What the sink answers is what the surroundings answer. -/
theorem accepted_of_mem_deliveries
    (accepts : ∀ chunk state, (world.deliver chunk state).1 = .ok ())
    {α : Type} {program : Program α} {state : σ}
    {chunk : Bytes} {answer : Except String Unit}
    (member : (chunk, answer) ∈ deliveries (world.trace program state)) :
    answer = .ok () := by
  obtain ⟨exchange, performed, delivered⟩ := List.mem_filterMap.mp member
  refine Program.of_mem_trace
    (fun exchange => ∀ taken, exchange.delivered? = some taken →
      taken.2 = .ok ()) ?_ performed _ delivered
  intro effect state taken isDelivery
  cases effect with
  | deliver other =>
      obtain rfl := Option.some.inj isDelivery
      exact accepts other state
  | connect | invoke | openStream | awaitItem | drawJitter | sleep | log =>
      cases isDelivery

/-- Events are relayed to their end if the sink accepts everything. -/
theorem relay_accepted
    (accepts : ∀ chunk state, (world.deliver chunk state).1 = .ok ())
    (events : List StreamEvent) (state : σ) :
    (world.run (relay (events.map .ok)) state).1 =
        some (.ok (.ofText (Utf8.decodeLossy (payloads events).flatten))) ∧
      deliveries (world.trace (relay (events.map .ok)) state) =
        (payloads events).map (·, .ok ()) := by
  have taken (chunk : Bytes) (answer : Except String Unit) :
      (chunk, answer) ∈
        deliveries (world.trace (relay (events.map .ok)) state) →
      answer = .ok () :=
    accepted_of_mem_deliveries world accepts
  have relayed := relayOnto_relayed world [] 0 (events.map .ok) state
  change Relayed [] (events.map .ok)
    (deliveries (world.trace (relay (events.map .ok)) state)) _
    (world.run (relay (events.map .ok)) state).1 at relayed
  generalize deliveries (world.trace (relay (events.map .ok)) state) =
    delivered at relayed taken ⊢
  generalize itemsTaken _ = count at relayed
  generalize (world.run (relay (events.map .ok)) state).1 = result
    at relayed ⊢
  generalize whole : events.map Except.ok = items at relayed
  cases relayed with
  | refused before event message after split isChunk =>
      cases taken _ _ (List.mem_append_right _ (List.mem_singleton_self _))
  | broken before failure after split =>
      have isEvent : (.error failure : StreamItem) ∈ events.map .ok := by
        rw [whole, split]
        exact List.mem_append_right _ List.mem_cons_self
      obtain ⟨event, _, same⟩ := List.mem_map.mp isEvent
      cases same
  | completed others split =>
      have same : events = others :=
        (List.map_inj_right fun _ _ => Except.ok.inj).mp (whole.trans split)
      rw [same]
      exact ⟨rfl, rfl⟩

end Runs

/-! ## The way of an answer -/

/-- Whether a connection is opened, the request of a streamed call over it is
answered with a body that is one text, not coded and in whatever pieces it arrives, and
the sink accepts every chunk. -/
structure Surroundings.Streams {σ : Type} (world : Surroundings σ)
    (apiKey : String) (request : Request) (state : σ) (text : String) :
    Prop where
  connects : (world.connect apiKey state).1 = .ok ()
  answers : ∃ (id : RequestId) (response : Response) (stream : OpenStream),
    response.Holds text ∧
      Http.streamed id request.model (.ok response) = .ok stream ∧
      (world.openStream request (world.connect apiKey state).2).1 =
        .ok stream.items
  accepts : ∀ chunk other, (world.deliver chunk other).1 = .ok ()

namespace Surroundings

variable {σ : Type} {world : Surroundings σ} {client : Client}
  {options : CallOptions} {messages : List Message} {state : σ}
  {fragments : List String} {finish : List (List Char)}

/-- An answer that is streamed is relayed whole. -/
theorem Streams.answer
    (streams : world.Streams client.apiKey
      (toRequest client.defaults options messages) state
      (writeAnswer fragments finish))
    (noReturns : ∀ fragment ∈ fragments, '\r' ∉ fragment.toList)
    (areLines : ∀ line ∈ finish, IsLine line)
    (usable : client.isUsable options messages = true) :
    (world.run (client.answer options true messages) state).1 =
        some (.ok (.ofText (String.join fragments))) ∧
      deliveries (world.trace (client.answer options true messages) state) =
        fragments.map fun fragment => (Utf8.encode fragment, .ok ()) := by
  obtain ⟨id, response, stream, holds, opened, answered⟩ := streams.answers
  rw [streamed_of_answer holds noReturns areLines] at opened
  obtain rfl := Except.ok.inj opened
  obtain ⟨result, delivered⟩ := relay_accepted world streams.accepts
    (fragments.map fragmentEvent ++
      (Http.Draft.event? ⟨"finish".toList, finish.reverse⟩).toList)
    (world.openStream (toRequest client.defaults options messages)
      (world.connect client.apiKey state).2).2
  rw [payloads_append, payloads_fragments, payloads_finish, List.append_nil]
    at result delivered
  rw [encode_join, Utf8.decodeLossy_encode] at result
  rw [List.map_map] at delivered
  rw [Client.isUsable, Bool.not_eq_true'] at usable
  rw [run, trace, Client.answer, run_loggedAll, trace_loggedAll, usable,
    if_neg Bool.false_ne_true, Program.run_perform, Program.trace_perform,
    handler, streams.connects, deliveries, List.filterMap_append,
    Exchange.filterMap_logged Exchange.delivered? (fun _ => rfl)]
  dsimp only
  rw [if_pos rfl, streamGeneration, Program.run_perform,
    Program.trace_perform, handler, answered]
  exact ⟨result, delivered⟩

end Surroundings

/-- The sink gets the bytes of every fragment in one chunk, in order, and the one
generation holds all of them together, however the body of the answer is cut
before it is read. -/
theorem generate_delivers_fragments {σ : Type} (world : Surroundings σ)
    (client : Client) (options : CallOptions) (messages : List Message)
    (fragments : List String) (finish : List (List Char)) (state : σ)
    (usable : client.isUsable options messages = true)
    (noReturns : ∀ fragment ∈ fragments, '\r' ∉ fragment.toList)
    (areLines : ∀ line ∈ finish, IsLine line)
    (streams : world.Streams client.apiKey
      (toRequest client.defaults options messages) state
      (writeAnswer fragments finish)) :
    let program := client.generate options true [messages]
    (world.run program state).1 =
        some (.ok [⟨String.join fragments, none, []⟩]) ∧
      deliveries (world.trace program state) =
        fragments.map fun fragment => (Utf8.encode fragment, .ok ()) := by
  obtain ⟨result, delivered⟩ := streams.answer noReturns areLines usable
  intro program
  constructor
  · show ((client.generate options true [messages]).run _ _).1 = _
    rw [Client.generate_singleton, Client.answerAll_singleton,
      Program.run_andThen]
    generalize ran : (client.answer options true messages).run world.handler
      state = ended at result ⊢
    obtain ⟨outcome, after⟩ := ended
    obtain rfl : outcome = _ := (congrArg Prod.fst ran).symm.trans result
    rfl
  · rw [world.trace_generate_singleton]
    exact delivered

/-! ## A service that streams -/

/-- A response with a text, cut behind some of its bytes. -/
def cutBehind (count : Nat) (text : String) : Response :=
  { status := .ok
    headers := [("content-type", "text/event-stream")]
    framing := .chunked true
    pieces := [(Utf8.encode text).take count, (Utf8.encode text).drop count]
    staysOpen := true }

private theorem cutBehind_holds (count : Nat) (text : String) :
    (cutBehind count text).Holds text :=
  have untold : Http.tellCoding [("content-type", "text/event-stream")] = false :=
    by decide +kernel
  Http.Response.holds_of_cut count rfl untold rfl

/-- A service that streams one text, cut behind some of its bytes. -/
def streaming (count : Nat) (text : String) : Surroundings Unit :=
  { acceptingAll with
    openStream := fun request state =>
      (received (Http.streamed ⟨0⟩ request.model (.ok (cutBehind count text))),
        state) }

private theorem streaming_streams (count : Nat) {fragments : List String}
    {finish : List (List Char)}
    (noReturns : ∀ fragment ∈ fragments, '\r' ∉ fragment.toList)
    (areLines : ∀ line ∈ finish, IsLine line) (apiKey : String)
    (request : Request) :
    (streaming count (writeAnswer fragments finish)).Streams apiKey request ()
      (writeAnswer fragments finish) where
  connects := rfl
  answers := by
    have holds := cutBehind_holds count (writeAnswer fragments finish)
    have opened := streamed_of_answer holds noReturns areLines ⟨0⟩ request.model
    refine ⟨⟨0⟩, _, _, holds, opened, ?_⟩
    show received (Http.streamed ⟨0⟩ request.model
      (.ok (cutBehind count (writeAnswer fragments finish)))) = _
    rw [opened]
    rfl
  accepts _ _ := rfl

/-- A fragment whose first character is cut, one without text, and one of two
lines arrive as they are. -/
theorem cut_fragments_delivered :
    let fragments := ["你好", "", "a\nb"]
    let finish := ["\x7b\x7d".toList]
    let world := streaming 18 (writeAnswer fragments finish)
    let program := (Client.ofKey "key").generate .none true [[.user "hi"]]
    (world.run program ()).1 = some (.ok [⟨"你好a\nb", none, []⟩]) ∧
      deliveries (world.trace program ()) =
        fragments.map fun fragment => (Utf8.encode fragment, .ok ()) := by
  intro fragments finish world
  have noReturns : ∀ fragment ∈ fragments, '\r' ∉ fragment.toList := by decide
  have areLines : ∀ line ∈ finish, IsLine line := by decide
  exact generate_delivers_fragments world (Client.ofKey "key") .none
    [.user "hi"] fragments finish () (by decide) noReturns areLines
    (streaming_streams 18 noReturns areLines "key" _)

end Parley.Session
