import Parley.Config.Settings
import Parley.Provider.Content
import Parley.Provider.Parameters
import Parley.Session.Relay
import Parley.Session.Retrying

/-!
Contract: the client of the model service.

A client answers conversations one after the other and in order. Each gets a
request of its own and a connection of its own, and the first failure ends the
call.

Owns: `Client`, `Client.generate` and `Client.call`.
-/

namespace Parley.Session

open Parley.Chat (Generation Message)
open Parley.Provider (CallOptions ContentDecoder Failure)
open Parley.Wire (Answer Request)

/-- What all calls of a client share. -/
structure Client where
  apiKey : String
  defaults : Request
  executor : Executor
  decoder : ContentDecoder

namespace Client

def ofKey (apiKey : String) : Client where
  apiKey := apiKey
  defaults := .standard
  executor := ⟨.standard, Retry.serviceTable⟩
  decoder := Provider.literalContent

/-- The client that settings ask for. Where it connects to is not its concern. -/
def ofSettings (settings : Config.Settings) : Client :=
  { ofKey settings.apiKey.value with
    defaults := settings.defaults.toRequest
    executor := ⟨settings.retry, Retry.serviceTable⟩ }

def droppedEntries (messages : List Message) : List Log.Entry :=
  (Provider.droppedRoles messages).map fun role =>
    .warn ("zhipuai: message role " ++ role.name ++
      " not supported, skipping")

/-- The log entries about a call that succeeded after retries. -/
def retriedEntries (completion : Completion) : List Log.Entry :=
  if 1 < completion.attempts then
    [.info ("zhipuai succeeded after " ++ toString completion.attempts ++
      " attempts (" ++ completion.totalDelay.toText ++ " spent waiting)")]
  else []

/-- The answer that the first candidate makes. -/
def decode (client : Client) (data : Answer) : Except Failure Generation :=
  Provider.decodeGeneration client.decoder
    (data.choices.head?.map (·.content)) data.usage

/-- Answers a request with a single call. -/
def complete (client : Client) (request : Request) :
    Program (Except Failure Generation) :=
  (client.executor.execute request).andThen fun completion =>
    .loggedAll (retriedEntries completion)
      (.done (client.decode completion.data))

def answer (client : Client) (options : CallOptions) (streaming : Bool)
    (messages : List Message) : Program (Except Failure Generation) :=
  let request := Provider.toRequest client.defaults options messages
  .loggedAll (droppedEntries messages)
    (if request.prompt.isEmpty then .done (.error .emptyPrompt)
    else
      .perform (.connect client.apiKey) fun
        | .error failure => .done (.error failure)
        | .ok () =>
            if streaming then streamGeneration request
            else client.complete request)

def answerAll (client : Client) (options : CallOptions) (streaming : Bool) :
    List (List Message) → Program (Except Failure (List Generation))
  | [] => .done (.ok [])
  | messages :: rest =>
      (client.answer options streaming messages).andThen fun generation =>
        (client.answerAll options streaming rest).andThen fun generations =>
          .done (.ok (generation :: generations))

def sharedSinkEntries (streaming : Bool) (count : Nat) : List Log.Entry :=
  if streaming && 1 < count then
    [.warn ("zhipuai: streaming " ++ toString count ++
      " message sets sequentially into one sink")]
  else []

def generate (client : Client) (options : CallOptions) (streaming : Bool)
    (sets : List (List Message)) :
    Program (Except Failure (List Generation)) :=
  if sets.isEmpty then .done (.error .emptyPrompt)
  else
    .loggedAll (sharedSinkEntries streaming sets.length)
      (client.answerAll options streaming sets)

def call (client : Client) (options : CallOptions) (streaming : Bool)
    (messages : List Message) : Program (Except Failure Message) :=
  (client.generate options streaming [messages]).andThen fun
    | [] => .done (.error .noContent)
    | generation :: _ => .done (.ok generation.toMessage)

end Client

end Parley.Session
