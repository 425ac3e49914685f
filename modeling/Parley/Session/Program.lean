import Parley.Log
import Parley.Provider.Failure
import Parley.Text.Utf8
import Parley.Time.Duration
import Parley.Wire.Envelope
import Parley.Wire.Request

/-!
Contract: programs that talk to the model service.

A program is a tree: it is done, or it asks its surroundings for an effect and
goes on with the answer. What waits may be answered by the news that the call was
cancelled. Surroundings are a handler of effects over a state of their own, so
one program runs against a script, a server or a proof.

Owns: `Effect`, `Program`, `Handler` and `Program.run`.
-/

namespace Parley.Session

open Parley.Provider (Failure)
open Parley.Text (Bytes)
open Parley.Time (Duration)
open Parley.Wire (Envelope Request)

structure StreamEvent where
  kind : String
  payload : Bytes
deriving DecidableEq

/-- What a stream yields: an event, or the failure that breaks it. -/
abbrev StreamItem := Except Failure StreamEvent

inductive Awaited (α : Type) where
  | cancelled
  | ready (value : α)

inductive Effect where
  | connect (apiKey : String)
  | invoke (request : Request)
  | openStream (request : Request)
  | awaitItem
  | deliver (chunk : Bytes)
  | drawJitter (bound : Duration)
  | sleep (span : Duration)
  | log (entry : Log.Entry)

/-- What an effect is answered with. A stream is known as a whole once it is
open, but each of its items, and its end, is waited for. -/
def Effect.Answer : Effect → Type
  | .connect _ => Except Failure Unit
  | .invoke _ => Awaited (Except Failure Envelope)
  | .openStream _ => Awaited (Except Failure (List StreamItem))
  | .awaitItem => Awaited Unit
  | .deliver _ => Except String Unit
  | .drawJitter _ => Duration
  | .sleep _ => Awaited Unit
  | .log _ => Unit

/-- A program with a result. It may also break down, which is no failure that it
reports. -/
inductive Program (α : Type) where
  | done (value : α)
  | breakdown
  | perform (effect : Effect) (next : effect.Answer → Program α)

namespace Program

variable {α β : Type}

/-- Goes on with the result of a program. -/
def bind : Program α → (α → Program β) → Program β
  | .done value, next => next value
  | .breakdown, _ => .breakdown
  | .perform effect resume, next =>
      .perform effect fun answer => (resume answer).bind next

instance : Monad Program where
  pure := .done
  bind := .bind

/-- Goes on with the result of a program unless that is a failure. -/
def andThen (program : Program (Except Failure α))
    (next : α → Program (Except Failure β)) : Program (Except Failure β) :=
  program.bind fun
    | .error failure => .done (.error failure)
    | .ok value => next value

def ask (effect : Effect) : Program effect.Answer :=
  .perform effect .done

def logged (entry : Log.Entry) (next : Program α) : Program α :=
  .perform (.log entry) fun _ => next

def loggedAll (entries : List Log.Entry) (next : Program α) : Program α :=
  entries.foldr logged next

end Program

/-- Surroundings of a program: how they answer each effect, and how that changes
their state. -/
abbrev Handler (σ : Type) :=
  (effect : Effect) → σ → effect.Answer × σ

/-- Runs a program. There is no result if it breaks down. -/
def Program.run {σ α : Type} (handler : Handler σ) :
    Program α → σ → Option α × σ
  | .done value, state => (some value, state)
  | .breakdown, state => (none, state)
  | .perform effect next, state =>
      let (answer, after) := handler effect state
      (next answer).run handler after

end Parley.Session
