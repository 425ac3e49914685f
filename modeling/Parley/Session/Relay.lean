import Parley.Chat.Generation
import Parley.Session.Program

/-!
Contract: streamed answers.

The payload of every event but the final marker is handed to the sink as it
arrives, and the answer is the text of all of them together. The stream ends with
its last item, whether or not a marker was among them. A sink that refuses a
chunk ends the call.

Owns: `relay`, `streamGeneration`.
-/

namespace Parley.Session

open Parley.Chat (Generation)
open Parley.Provider (Failure)
open Parley.Text (Bytes Utf8.decodeLossy)
open Parley.Wire (Request)

namespace StreamEvent

/-- The kind of an event that carries a chunk. -/
def addKind : String := "add"

def finishKind : String := "finish"

def errorKind : String := "error"

def interruptedKind : String := "interrupted"

def isFinish (event : StreamEvent) : Bool :=
  event.kind == finishKind

def trouble (event : StreamEvent) : List Log.Entry :=
  if event.kind == errorKind || event.kind == interruptedKind then
    [.warn ("zhipuai stream reported " ++ event.kind ++ ": " ++
      Utf8.decodeLossy event.payload)]
  else []

end StreamEvent

def completedEntry (chunks : Nat) : Log.Entry :=
  .info ("stream completed after " ++ toString chunks ++ " chunks")

/-- Relays the items of a stream. `taken` holds the payloads so far, the last one
first, and `chunks` counts them. -/
def relayOnto (taken : List Bytes) (chunks : Nat) :
    List StreamItem → Program (Except Failure Generation)
  | [] =>
      .perform .awaitItem fun
        | .cancelled => .done (.error .cancelled)
        | .ready () =>
            .logged (completedEntry chunks)
              (.done (.ok
                (.ofText (Utf8.decodeLossy taken.reverse.flatten))))
  | item :: items =>
      .perform .awaitItem fun
        | .cancelled => .done (.error .cancelled)
        | .ready () =>
            match item with
            | .error failure => .done (.error failure)
            | .ok event =>
                if event.isFinish then relayOnto taken chunks items
                else
                  .loggedAll event.trouble
                    (.perform (.deliver event.payload) fun
                      | .error message => .done (.error (.sink message))
                      | .ok () =>
                          relayOnto (event.payload :: taken) (chunks + 1)
                            items)

def relay (items : List StreamItem) :
    Program (Except Failure Generation) :=
  relayOnto [] 0 items

def streamGeneration (request : Request) :
    Program (Except Failure Generation) :=
  .perform (.openStream request) fun
    | .cancelled => .done (.error .cancelled)
    | .ready (.error failure) => .done (.error failure)
    | .ready (.ok items) => relay items

end Parley.Session
