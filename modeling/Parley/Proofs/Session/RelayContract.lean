import Parley.Proofs.Session.Surroundings
import Parley.Proofs.Text.Utf8
import Parley.Session.Relay

/-!
Contract: what the sink gets of a stream, and how a relayed stream ends.

A stream is relayed up to the first chunk that the sink refuses or the first
failure of the stream, and to its end if there is neither. The sink gets the
payload of every event up to there but those that mark the end of an answer.

Owns: `payloads`, `Relayed`, and the contract of `relay`.
-/

namespace Parley.Session

open Parley.Chat (Generation)
open Parley.Provider (Failure)
open Parley.Text (Bytes Utf8.decodeLossy Utf8.encode)

/-- The payloads that events bring to the sink. -/
def payloads (events : List StreamEvent) : List Bytes :=
  (events.filter fun event => !event.isFinish).map (·.payload)

/-- How the relaying of items ends behind chunks that were kept before: what the
sink gets and answers, how many items (or their end) are taken, and the
result. -/
inductive Relayed (kept : List Bytes) (items : List StreamItem) :
    List (Bytes × Except String Unit) → Nat →
      Option (Except Failure Generation) → Prop where
  | refused (before : List StreamEvent) (event : StreamEvent)
      (message : String) (after : List StreamItem)
      (split : items = before.map .ok ++ .ok event :: after)
      (isChunk : event.isFinish = false) :
      Relayed kept items
        ((payloads before).map (·, .ok ()) ++
          [(event.payload, .error message)])
        (before.length + 1) (some (.error (.sink message)))
  | broken (before : List StreamEvent) (failure : Failure)
      (after : List StreamItem)
      (split : items = before.map .ok ++ .error failure :: after) :
      Relayed kept items ((payloads before).map (·, .ok ()))
        (before.length + 1) (some (.error failure))
  | completed (events : List StreamEvent) (whole : items = events.map .ok) :
      Relayed kept items ((payloads events).map (·, .ok ()))
        (events.length + 1)
        (some (.ok
          (.ofText (Utf8.decodeLossy (kept ++ payloads events).flatten))))

theorem payloads_cons (event : StreamEvent) (events : List StreamEvent) :
    payloads (event :: events) = payloads [event] ++ payloads events := by
  unfold payloads
  rw [← List.map_append, ← List.filter_append, List.singleton_append]

/-- An event that was taken and not refused extends what is relayed behind
it. -/
theorem Relayed.cons {kept : List Bytes} {event : StreamEvent}
    {items : List StreamItem} {delivered : List (Bytes × Except String Unit)}
    {taken : Nat} {result : Option (Except Failure Generation)}
    (later : Relayed (kept ++ payloads [event]) items delivered taken result) :
    Relayed kept (.ok event :: items)
      ((payloads [event]).map (·, .ok ()) ++ delivered) (taken + 1)
      result := by
  cases later with
  | refused before refusedEvent message after split isChunk =>
      rw [← List.append_assoc, ← List.map_append, ← payloads_cons]
      exact .refused (event :: before) refusedEvent message after
        (by rw [split]; rfl) isChunk
  | broken before failure after split =>
      rw [← List.map_append, ← payloads_cons]
      exact .broken (event :: before) failure after (by rw [split]; rfl)
  | completed events whole =>
      rw [← List.map_append, List.append_assoc, ← payloads_cons]
      exact .completed (event :: events) (by rw [whole]; rfl)

section Runs

variable {σ : Type} (world : Surroundings σ)

/-- What the sink gets, and how it answers. -/
def deliveries (trace : List Exchange) : List (Bytes × Except String Unit) :=
  trace.filterMap Exchange.delivered?

/-- How often the next item of a stream, or its end, was taken. -/
def itemsTaken (trace : List Exchange) : Nat :=
  trace.countP Exchange.awaitsItem

theorem itemsTaken_cons (answer : Awaited Unit) (later : List Exchange) :
    itemsTaken (⟨.awaitItem, answer⟩ :: later) = itemsTaken later + 1 :=
  List.countP_cons_of_pos rfl

/-! ## One item -/

section Item

variable (taken : List Bytes) (chunks : Nat) (event : StreamEvent)
  (items : List StreamItem) (state : σ)

/-- A marker is taken and reaches no sink. -/
theorem relayOnto_finish (finish : event.isFinish = true) :
    let program := relayOnto taken chunks (.ok event :: items)
    let rest := relayOnto taken chunks items
    (world.run program state).1 = (world.run rest (world.awaitItem state)).1 ∧
      world.trace program state =
        ⟨.awaitItem, .ready ()⟩ ::
          world.trace rest (world.awaitItem state) := by
  simp only [Surroundings.run, Surroundings.trace, relayOnto,
    Program.run_perform, Program.trace_perform, Surroundings.handler, finish,
    ↓reduceIte, and_self]

/-- What is performed for a chunk up to the answer of the sink. -/
def chunkTrace (accepted : Except String Unit) : List Exchange :=
  ⟨.awaitItem, .ready ()⟩ :: event.trouble.map .logged ++
    [⟨.deliver event.payload, accepted⟩]

/-- A chunk that the sink refuses ends the stream. -/
theorem relayOnto_refused (isChunk : event.isFinish = false)
    {message : String}
    (refused : (world.deliver event.payload (world.awaitItem state)).1 =
      .error message) :
    let program := relayOnto taken chunks (.ok event :: items)
    (world.run program state).1 = some (.error (.sink message)) ∧
      world.trace program state = chunkTrace event (.error message) := by
  simp only [Surroundings.run, Surroundings.trace, relayOnto,
    Program.run_perform, Program.trace_perform, Surroundings.handler, isChunk,
    Bool.false_eq_true, ↓reduceIte, Surroundings.run_loggedAll,
    Surroundings.trace_loggedAll, refused, chunkTrace]
  exact ⟨rfl, rfl⟩

/-- A chunk that the sink accepts is kept. -/
theorem relayOnto_accepted (isChunk : event.isFinish = false)
    (accepted : (world.deliver event.payload (world.awaitItem state)).1 =
      .ok ()) :
    let program := relayOnto taken chunks (.ok event :: items)
    let rest := relayOnto (event.payload :: taken) (chunks + 1) items
    let after := (world.deliver event.payload (world.awaitItem state)).2
    (world.run program state).1 = (world.run rest after).1 ∧
      world.trace program state =
        chunkTrace event (.ok ()) ++ world.trace rest after := by
  simp only [Surroundings.run, Surroundings.trace, relayOnto,
    Program.run_perform, Program.trace_perform, Surroundings.handler, isChunk,
    Bool.false_eq_true, ↓reduceIte, Surroundings.run_loggedAll,
    Surroundings.trace_loggedAll, accepted, chunkTrace, List.append_assoc,
    List.cons_append, List.nil_append, and_self]

theorem deliveries_chunkTrace (accepted : Except String Unit)
    (later : List Exchange) :
    deliveries (chunkTrace event accepted ++ later) =
      (event.payload, accepted) :: deliveries later := by
  rw [deliveries, chunkTrace, List.filterMap_append, List.filterMap_append,
    List.filterMap_cons,
    Exchange.filterMap_logged Exchange.delivered? (fun _ => rfl)]
  rfl

theorem itemsTaken_chunkTrace (accepted : Except String Unit)
    (later : List Exchange) :
    itemsTaken (chunkTrace event accepted ++ later) =
      itemsTaken later + 1 := by
  rw [chunkTrace, List.cons_append, List.cons_append, itemsTaken_cons,
    itemsTaken, List.countP_append, List.countP_append,
    Exchange.countP_logged Exchange.awaitsItem (fun _ => rfl), Nat.zero_add,
    List.countP_cons_of_neg Bool.false_ne_true, List.countP_nil,
    Nat.zero_add, itemsTaken]

end Item

/-! ## All items -/

theorem relayOnto_relayed (taken : List Bytes) (chunks : Nat)
    (items : List StreamItem) (state : σ) :
    Relayed taken.reverse items
      (deliveries (world.trace (relayOnto taken chunks items) state))
      (itemsTaken (world.trace (relayOnto taken chunks items) state))
      (world.run (relayOnto taken chunks items) state).1 := by
  induction items generalizing taken chunks state with
  | nil =>
      have ended : Relayed taken.reverse [] _ _ _ := .completed [] rfl
      rw [show taken.reverse ++ payloads [] = taken.reverse from
        List.append_nil _] at ended
      exact ended
  | cons item items inductionHypothesis =>
      rcases item with failure | event
      · exact .broken [] failure items rfl
      by_cases finish : event.isFinish = true
      · obtain ⟨result, performed⟩ :=
          relayOnto_finish world taken chunks event items state finish
        have noPayload : payloads [event] = [] := by
          simp only [payloads, List.filter_cons, finish, Bool.not_true,
            Bool.false_eq_true, ↓reduceIte, List.filter_nil, List.map_nil]
        have later := inductionHypothesis taken chunks (world.awaitItem state)
        rw [← List.append_nil taken.reverse, ← noPayload] at later
        have whole := later.cons
        rw [noPayload] at whole
        rw [result, performed, itemsTaken_cons]
        exact whole
      have isChunk := Bool.eq_false_iff.mpr finish
      have onePayload : payloads [event] = [event.payload] := by
        simp only [payloads, List.filter_cons, isChunk, Bool.not_false,
          ↓reduceIte, List.filter_nil, List.map_cons, List.map_nil]
      cases answered : (world.deliver event.payload
          (world.awaitItem state)).1 with
      | error message =>
          obtain ⟨result, performed⟩ :=
            relayOnto_refused world taken chunks event items state isChunk
              answered
          have ended : Relayed taken.reverse (.ok event :: items) _ _ _ :=
            .refused [] event message items rfl isChunk
          rw [result, performed, ← List.append_nil (chunkTrace _ _),
            deliveries_chunkTrace, itemsTaken_chunkTrace]
          exact ended
      | ok accepted =>
          obtain ⟨result, performed⟩ :=
            relayOnto_accepted world taken chunks event items state isChunk
              answered
          have later := inductionHypothesis (event.payload :: taken)
            (chunks + 1)
            (world.deliver event.payload (world.awaitItem state)).2
          rw [List.reverse_cons, ← onePayload] at later
          have whole := later.cons
          rw [onePayload] at whole
          rw [result, performed, deliveries_chunkTrace, itemsTaken_chunkTrace]
          exact whole

/-- A relay that succeeds saw events only, and its text is that of all their
chunks. -/
theorem relay_text {events : List StreamEvent} {state : σ}
    {generation : Generation}
    (succeeded : (world.run (relay (events.map .ok)) state).1 =
      some (.ok generation)) :
    generation.text = Utf8.decodeLossy (payloads events).flatten := by
  have relayed := relayOnto_relayed world [] 0 (events.map .ok) state
  rw [show world.run (relayOnto [] 0 (events.map .ok)) state =
    world.run (relay (events.map .ok)) state from rfl, succeeded] at relayed
  generalize deliveries _ = delivered at relayed
  generalize itemsTaken _ = taken at relayed
  cases relayed with
  | completed others whole =>
      have same : events = others :=
        (List.map_inj_right fun _ _ => Except.ok.inj).mp whole
      rw [same]
      rfl

/-- A stream is relayed up to the first chunk that the sink refuses or the first
failure of the stream, whichever comes first, and otherwise to its end; the text
depends on the joined bytes of the chunks alone. -/
theorem relay_stops_at_first_refusal_or_failure (items : List StreamItem)
    (state : σ) :
    let trace := world.trace (relay items) state
    let result := (world.run (relay items) state).1
    ((∃ before event message after,
        items = before.map .ok ++ .ok event :: after ∧
          event.kind ≠ "finish" ∧
          deliveries trace = (payloads before).map (·, .ok ()) ++
            [(event.payload, .error message)] ∧
          itemsTaken trace = before.length + 1 ∧
          result = some (.error (.sink message))) ∨
      (∃ before failure after,
        items = before.map .ok ++ .error failure :: after ∧
          deliveries trace = (payloads before).map (·, .ok ()) ∧
          itemsTaken trace = before.length + 1 ∧
          result = some (.error failure)) ∨
      (∃ events : List StreamEvent,
        items = events.map .ok ∧
          deliveries trace = (payloads events).map (·, .ok ()) ∧
          itemsTaken trace = events.length + 1 ∧
          result = some (.ok
            ⟨Utf8.decodeLossy (payloads events).flatten, none, []⟩))) ∧
    (∀ events generation text, items = events.map .ok →
      result = some (.ok generation) →
      (payloads events).flatten = Utf8.encode text →
      generation.text = text) ∧
    (∀ (τ : Type) (otherWorld : Surroundings τ) (otherState : τ)
      (events otherEvents : List StreamEvent)
      (generation otherGeneration : Generation),
      items = events.map .ok → result = some (.ok generation) →
      (otherWorld.run (relay (otherEvents.map .ok)) otherState).1 =
        some (.ok otherGeneration) →
      (payloads events).flatten = (payloads otherEvents).flatten →
      generation.text = otherGeneration.text) := by
  intro trace result
  refine ⟨?_, ?_, ?_⟩
  · have relayed : Relayed [] items (deliveries trace) (itemsTaken trace)
        result := relayOnto_relayed world [] 0 items state
    generalize deliveries trace = delivered at relayed ⊢
    generalize itemsTaken trace = taken at relayed ⊢
    generalize result = ended at relayed ⊢
    cases relayed with
    | refused before event message after split isChunk =>
        exact .inl ⟨before, event, message, after, split,
          beq_eq_false_iff_ne.mp isChunk, rfl, rfl, rfl⟩
    | broken before failure after split =>
        exact .inr (.inl ⟨before, failure, after, split, rfl, rfl, rfl⟩)
    | completed events whole =>
        exact .inr (.inr ⟨events, whole, rfl, rfl, rfl⟩)
  · intro events generation text whole succeeded wellFormed
    subst whole
    rw [relay_text world succeeded, wellFormed,
      Text.Utf8.decodeLossy_encode]
  · intro τ otherWorld otherState events otherEvents generation
      otherGeneration whole succeeded otherSucceeded sameBytes
    subst whole
    rw [relay_text world succeeded, relay_text otherWorld otherSucceeded,
      sameBytes]

end Runs

/-- A character that is cut by events, with a marker between its bytes, arrives
whole. -/
theorem relay_joins_cut_character :
    let events : List StreamEvent :=
      [⟨"add", [0xE4, 0xBD]⟩, ⟨"finish", [0x21]⟩, ⟨"add", [0xA0]⟩]
    ∃ generation,
      (acceptingAll.run (relay (events.map .ok)) ()).1 =
        some (.ok generation) ∧ generation.text = "你" := by
  intro events
  refine ⟨_, rfl, ?_⟩
  exact (relay_stops_at_first_refusal_or_failure acceptingAll
    (events.map .ok) ()).2.1 events _ "你" rfl rfl (by decide)

end Parley.Session
