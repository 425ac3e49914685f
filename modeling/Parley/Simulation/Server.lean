import Parley.Http.Exchange

/-!
Contract: a scripted server that calls reach over connections of their own.

The server answers the requests to its authority from a list; connections to
every other authority are refused. Delays before retries take no time, the sink
accepts everything, and nothing is cancelled by itself: what never happens is
waited for until the call is cancelled.

Owns: `Reply`, `Server` and its handler.
-/

namespace Parley.Simulation

open Parley.Http (Endpoint OpenStream Post Report RequestId Response SendFault)
open Parley.Provider (Failure)
open Parley.Session (Awaited Effect Handler StreamItem)
open Parley.Text (Bytes)
open Parley.Wire (CallKind Envelope Request)

/-- What the server does about a request: it answers, it keeps silent, or it
closes the connection. -/
inductive Reply where
  | respond (response : Response)
  | silence
  | hangUp

/-- The server, how it is called, and what happened. The random bits of requests
are given by their number. Of an open stream there is the number of items that
are left and whether it ends after them. The lists of what happened hold the last
entry first. -/
structure Server where
  authority : String
  replies : List Reply
  endpoint : Endpoint
  randomBits : Nat → BitVec 128
  calls : Nat
  itemsLeft : Nat
  streamEnds : Bool
  sent : List Post
  chunks : List Bytes
  logs : List Log.Entry

namespace Server

def start (authority : String) (replies : List Reply) (baseUrl : String)
    (randomBits : Nat → BitVec 128) : Server where
  authority := authority
  replies := replies
  endpoint := ⟨baseUrl, ""⟩
  randomBits := randomBits
  calls := 0
  itemsLeft := 0
  streamEnds := true
  sent := []
  chunks := []
  logs := []

def log (server : Server) (entries : List Log.Entry) : Server :=
  { server with logs := entries.reverse ++ server.logs }

/-- What comes of a request that reaches the server. A call with one answer does
not wait for ever. After an interim status the response itself never comes. -/
def reply (server : Server) (kind : CallKind) (post : Post) :
    Awaited (Except SendFault Response) × Server :=
  let reached := { server with sent := post :: server.sent }
  match server.replies with
  | [] => (.ready (.error (.broken post.address.write)), reached)
  | first :: rest =>
      let outcome : Awaited (Except SendFault Response) :=
        match first, kind with
        | .respond response, _ =>
            if response.status.isInterim then
              .ready (.error (.broken post.address.write))
            else .ready (.ok response)
        | .hangUp, _ => .ready (.error (.broken post.address.write))
        | .silence, .single => .ready (.error .timedOut)
        | .silence, .streamed => .cancelled
      (outcome, { reached with replies := rest })

def send (server : Server) (kind : CallKind) (id : RequestId)
    (request : Request) : Awaited (Except SendFault Response) × Server :=
  match server.endpoint.post kind id request with
  | .error fault => (.ready (.error fault), server)
  | .ok post =>
      if String.ofList post.address.authority = server.authority then
        server.reply kind post
      else (.ready (.error (.refused post.address.write)), server)

/-- Makes a call, of whose response `read` makes a result. -/
def exchange {α : Type} (server : Server) (kind : CallKind) (request : Request)
    (read : RequestId → Except SendFault Response → Except Report α) :
    Awaited (Except Failure α) × Server :=
  let id := RequestId.ofRandom (server.randomBits server.calls)
  let begun :=
    { server with calls := server.calls + 1 }.log
      [Http.callEntry kind request.model id]
  match begun.send kind id request with
  | (.cancelled, after) => (.cancelled, after)
  | (.ready outcome, after) =>
      match read id outcome with
      | .ok value => (.ready (.ok value), after)
      | .error report =>
          (.ready (.error report.failure), after.log report.entries)

def invoke (server : Server) (request : Request) :
    Awaited (Except Failure Envelope) × Server :=
  server.exchange .single request fun id => Http.single id request.model

def openStream (server : Server) (request : Request) :
    Awaited (Except Failure (List StreamItem)) × Server :=
  match server.exchange .streamed request
      (fun id => Http.streamed id request.model) with
  | (.cancelled, after) => (.cancelled, after)
  | (.ready (.error failure), after) => (.ready (.error failure), after)
  | (.ready (.ok stream), after) =>
      (.ready (.ok stream.items),
        { after with
          itemsLeft := stream.items.length
          streamEnds := stream.ends })

def awaitItem (server : Server) : Awaited Unit × Server :=
  if server.itemsLeft = 0 then
    (if server.streamEnds then .ready () else .cancelled, server)
  else (.ready (), { server with itemsLeft := server.itemsLeft - 1 })

def handler : Handler Server
  | .connect apiKey, server =>
      (.ok (),
        { server with endpoint := { server.endpoint with apiKey := apiKey } })
  | .invoke request, server => server.invoke request
  | .openStream request, server => server.openStream request
  | .awaitItem, server => server.awaitItem
  | .deliver chunk, server =>
      (.ok (), { server with chunks := chunk :: server.chunks })
  | .drawJitter _, server => (.zero, server)
  | .sleep _, server => (.ready (), server)
  | .log entry, server => ((), server.log [entry])

end Server

end Parley.Simulation
