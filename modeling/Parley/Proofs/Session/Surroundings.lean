import Parley.Proofs.Session.Trace

/-!
Contract: surroundings in which no call is cancelled.

What a connection, the service, the source of random delays, the sink and the
clock do may depend on everything that happened before and changes a common
state. What is written to the log changes nothing.

Owns: `Surroundings`, their handler, runs and traces past the log, and
`acceptingAll`.
-/

namespace Parley.Session

open Parley.Provider (Failure)
open Parley.Text (Bytes)
open Parley.Time (Duration)
open Parley.Wire (Envelope Request)

/-- What the parties to an uncancelled call do, over a state that they share. -/
structure Surroundings (σ : Type) where
  connect : String → σ → Except Failure Unit × σ
  invoke : Request → σ → Except Failure Envelope × σ
  openStream : Request → σ → Except Failure (List StreamItem) × σ
  /-- The next item of a stream, or its end, arrives. -/
  awaitItem : σ → σ
  deliver : Bytes → σ → Except String Unit × σ
  drawJitter : Duration → σ → Duration × σ
  /-- Time passes. -/
  sleep : Duration → σ → σ

namespace Surroundings

variable {σ α β : Type} (world : Surroundings σ)

/-- How the parties answer every effect. What waits is never told that its call
was cancelled. -/
def handler : Handler σ
  | .connect apiKey, state => world.connect apiKey state
  | .invoke request, state =>
      (.ready (world.invoke request state).1, (world.invoke request state).2)
  | .openStream request, state =>
      (.ready (world.openStream request state).1,
        (world.openStream request state).2)
  | .awaitItem, state => (.ready (), world.awaitItem state)
  | .deliver chunk, state => world.deliver chunk state
  | .drawJitter bound, state => world.drawJitter bound state
  | .sleep span, state => (.ready (), world.sleep span state)
  | .log _, state => ((), state)

/-- The result of a program and the state it leaves behind. -/
abbrev run (program : Program α) (state : σ) : Option α × σ :=
  program.run world.handler state

/-- What a program performs. -/
abbrev trace (program : Program α) (state : σ) : List Exchange :=
  program.trace world.handler state

/-! ## The log -/

@[simp] theorem run_logged (entry : Log.Entry) (program : Program α)
    (state : σ) :
    (Program.logged entry program).run world.handler state =
      program.run world.handler state := rfl

@[simp] theorem trace_logged (entry : Log.Entry) (program : Program α)
    (state : σ) :
    (Program.logged entry program).trace world.handler state =
      .logged entry :: program.trace world.handler state := rfl

@[simp] theorem run_loggedAll (entries : List Log.Entry)
    (program : Program α) (state : σ) :
    (Program.loggedAll entries program).run world.handler state =
      program.run world.handler state := by
  induction entries with
  | nil => rfl
  | cons entry entries inductionHypothesis => exact inductionHypothesis

@[simp] theorem trace_loggedAll (entries : List Log.Entry)
    (program : Program α) (state : σ) :
    (Program.loggedAll entries program).trace world.handler state =
      entries.map .logged ++ program.trace world.handler state := by
  induction entries with
  | nil => rfl
  | cons entry entries inductionHypothesis =>
      exact congrArg (Exchange.logged entry :: ·) inductionHypothesis

end Surroundings

/-- Parties that accept everything and have nothing to say. -/
def acceptingAll : Surroundings Unit where
  connect _ state := (.ok (), state)
  invoke _ state := (.ok ⟨0, "", true, none⟩, state)
  openStream _ state := (.ok [], state)
  awaitItem state := state
  deliver _ state := (.ok (), state)
  drawJitter _ state := (.zero, state)
  sleep _ state := state

end Parley.Session
