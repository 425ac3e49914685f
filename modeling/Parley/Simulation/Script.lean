import Parley.Retry.Jitter
import Parley.Session.Program

/-!
Contract: a scripted model service under a virtual clock.

The service answers from lists, each entry after a delay of its own, and the
clock only moves while a program waits, never by more than thirty years at once.
A call may be cancelled before it starts, at a time, inside one of its requests,
or by its sink. A wait that is cancelled ends at that moment. What is ready at
once is not cancelled any more once it was asked for, and a time that has come
cancels nothing before the program waits again.

Owns: `Script`, `Interruption`, `SinkScript`, `World` and its handler.
-/

namespace Parley.Simulation

open Parley.Provider (Failure)
open Parley.Session (Awaited Effect Handler StreamItem)
open Parley.Text (Bytes)
open Parley.Time (Duration)
open Parley.Wire (CallKind Envelope Request)

/-- A value that is available after a delay in milliseconds. -/
structure Delayed (α : Type) where
  delay : Nat
  value : α

abbrev Stream := Except Failure (List (Delayed StreamItem))

/-- The random delays of a script: a list that is gone through again and again
whatever the bound, or a generator. -/
inductive JitterScript where
  | cycle (delays : List Nat) (next : Nat)
  | generator (state : Retry.Generator)

def JitterScript.draw (bound : Duration) :
    JitterScript → Duration × JitterScript
  | .cycle delays next =>
      (.ofMillis ((delays[next % delays.length]?).getD 0),
        .cycle delays (next + 1))
  | .generator state =>
      let (delay, after) := state.delay bound
      (delay, .generator after)

/-- What the service has yet to answer. Connections succeed once their list is
used up; requests fail then. -/
structure Script where
  unary : List (Delayed (Except Failure Envelope))
  streams : List (Delayed Stream)
  connects : List (Except Failure Unit)
  jitter : JitterScript

/-- When a call is cancelled: from the start, so many milliseconds after it, or
inside the request of a number. -/
structure Interruption where
  before : Bool
  afterMillis : Option Nat
  onRequest : Option Nat

def Interruption.none : Interruption :=
  ⟨false, .none, .none⟩

/-- What a sink does: it fails on the chunk of a number, and it cancels the call
on one. -/
structure SinkScript where
  failAt : Option Nat
  message : String
  cancelAt : Option Nat

/-- A request that was made, and when. -/
structure RequestRecord where
  kind : CallKind
  request : Request
  time : Nat

/-- What happened during a call. Every list holds the last entry first. -/
structure Trace where
  connects : List String
  requests : List RequestRecord
  chunks : List Bytes
  bounds : List Duration
  logs : List Log.Entry

def Trace.empty : Trace :=
  ⟨[], [], [], [], []⟩

/-- A call as far as it went: whether it is cancelled or when a wait of it will
be, the number of the request inside which it is cancelled, how many requests
were made and chunks delivered, its sink, the delays of the open stream, and what
happened. -/
structure Call where
  cancelled : Bool
  cancelTime : Option Nat
  cancelRequest : Option Nat
  requests : Nat
  chunks : Nat
  sink : SinkScript
  itemDelays : List Nat
  trace : Trace

/-- The scripted service, the clock in milliseconds, and the call under way. -/
structure World where
  script : Script
  clock : Nat
  call : Call

namespace World

/-- The longest wait in milliseconds: thirty years of 365 days. -/
def longestWait : Nat := 30 * 365 * 24 * 60 * 60 * 1000

/-- The time at which a wait that starts now is over. -/
def timeAfter (clock delay : Nat) : Nat :=
  clock + min delay longestWait

def start (script : Script) (clock : Nat) (interruption : Interruption)
    (sink : SinkScript) (itemDelays : List Nat) : World where
  script := script
  clock := clock
  call :=
    { cancelled := interruption.before
      cancelTime := interruption.afterMillis.map (timeAfter clock)
      cancelRequest := interruption.onRequest
      requests := 0
      chunks := 0
      sink := sink
      itemDelays := itemDelays
      trace := .empty }

def onCall (world : World) (change : Call → Call) : World :=
  { world with call := change world.call }

def onTrace (world : World) (change : Trace → Trace) : World :=
  world.onCall fun call => { call with trace := change call.trace }

/-- When a wait that starts now is cancelled, unless it is over before. -/
def cancelTime? (world : World) : Option Nat :=
  if world.call.cancelled then some world.clock
  else world.call.cancelTime.map (max world.clock)

/-- Waits for something that takes a time, unless the call is cancelled first. -/
def wait {α : Type} (world : World) (delay : Nat) (value : α) :
    Awaited α × World :=
  let finish := timeAfter world.clock delay
  match world.cancelTime?.filter (· < finish) with
  | some time => (.cancelled, { world with clock := time })
  | none => (.ready value, { world with clock := finish })

def recordRequest (world : World) (kind : CallKind) (request : Request) :
    World :=
  let number := world.call.requests + 1
  (world.onCall fun call =>
    { call with
      requests := number
      cancelled := call.cancelled || call.cancelRequest == some number }).onTrace
    fun trace =>
      { trace with
        requests := ⟨kind, request, world.clock⟩ :: trace.requests }

/-- The failure of a request that the script has no answer for. -/
def exhausted : Failure :=
  .network "script exhausted"

def invoke (world : World) (request : Request) :
    Awaited (Except Failure Envelope) × World :=
  let recorded := world.recordRequest .single request
  match world.script.unary with
  | [] => recorded.wait 0 (.error exhausted)
  | answer :: rest =>
      { recorded with script.unary := rest }.wait answer.delay answer.value

def openStream (world : World) (request : Request) :
    Awaited (Except Failure (List StreamItem)) × World :=
  let recorded := world.recordRequest .streamed request
  match world.script.streams with
  | [] => recorded.wait 0 (.error exhausted)
  | answer :: rest =>
      let delays :=
        match answer.value with
        | .error _ => []
        | .ok items => items.map Delayed.delay
      let opened :=
        { recorded with script.streams := rest }.onCall fun call =>
          { call with itemDelays := delays }
      opened.wait answer.delay
        (answer.value.map fun items => items.map Delayed.value)

def awaitItem (world : World) : Awaited Unit × World :=
  let rest := world.onCall fun call =>
    { call with itemDelays := call.itemDelays.tail }
  rest.wait (world.call.itemDelays.head?.getD 0) ()

def deliver (world : World) (chunk : Bytes) : Except String Unit × World :=
  let number := world.call.chunks + 1
  let sink := world.call.sink
  let delivered :=
    (world.onCall fun call =>
      { call with
        chunks := number
        cancelled := call.cancelled || sink.cancelAt == some number }).onTrace
      fun trace => { trace with chunks := chunk :: trace.chunks }
  (if sink.failAt = some number then .error sink.message else .ok (),
    delivered)

def connect (world : World) (apiKey : String) : Except Failure Unit × World :=
  let recorded := world.onTrace fun trace =>
    { trace with connects := apiKey :: trace.connects }
  match world.script.connects with
  | [] => (.ok (), recorded)
  | result :: rest => (result, { recorded with script.connects := rest })

def drawJitter (world : World) (bound : Duration) : Duration × World :=
  let (delay, jitter) := world.script.jitter.draw bound
  (delay, { world with script.jitter := jitter }.onTrace fun trace =>
    { trace with bounds := bound :: trace.bounds })

/-- Answers something that waits, unless the call is cancelled already. -/
def unlessCancelled {α : Type} (world : World)
    (answer : Awaited α × World) : Awaited α × World :=
  if world.call.cancelled then (.cancelled, world) else answer

def handler : Handler World
  | .connect apiKey, world => world.connect apiKey
  | .invoke request, world => world.unlessCancelled (world.invoke request)
  | .openStream request, world =>
      world.unlessCancelled (world.openStream request)
  | .awaitItem, world => world.unlessCancelled world.awaitItem
  | .deliver chunk, world => world.deliver chunk
  | .drawJitter bound, world => world.drawJitter bound
  | .sleep span, world =>
      world.unlessCancelled (world.wait span.toMillis ())
  | .log entry, world =>
      ((), world.onTrace fun trace =>
        { trace with logs := entry :: trace.logs })

end World

end Parley.Simulation
