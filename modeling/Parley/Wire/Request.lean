import Parley.Schema.Record

/-!
Contract: what is sent to the model service.

Owns: `Role` and `Turn`, the turns that the service understands, `CallKind`, and
`Request`, the parameters of one call. The model is part of a request but not of
its body: it is named by the address that the body is sent to.
-/

namespace Parley.Wire

open Parley.Numeric (Single)
open Parley.Schema (Codec Record)

/-- Who a turn comes from, as far as the service tells senders apart. -/
inductive Role where
  | user
  | assistant
deriving DecidableEq, Repr

namespace Role

def name : Role → String
  | user => "user"
  | assistant => "assistant"

def codec : Codec Role :=
  .enumeration [(user.name, user), (assistant.name, assistant)] name

end Role

structure Turn where
  role : Role
  content : String
deriving DecidableEq, Repr

namespace Turn

def record : Record Turn where
  name := "Prompt"
  blank := ⟨.user, ""⟩
  closed := false
  members := [
    .plain "role" .required Role.codec (·.role)
      fun role turn => { turn with role },
    .plain "content" .required .plainText (·.content)
      fun content turn => { turn with content }]

def codec : Codec Turn := record.codec

end Turn

/-- The two kinds of calls: those with one answer, and those whose answer is
streamed. -/
inductive CallKind where
  | single
  | streamed
deriving DecidableEq, Repr

/-- The last part of the address of a call. -/
def CallKind.endpoint : CallKind → String
  | single => "invoke"
  | streamed => "sse-invoke"

structure Request where
  model : String
  temperature : Option Single
  topP : Option Single
  prompt : List Turn
deriving DecidableEq

/-- The temperature of calls that do not set one: 0.95. -/
def defaultTemperature : Single :=
  .ofRatio false 95 100

/-- The nucleus probability of calls that do not set one: 0.7. -/
def defaultTopP : Single :=
  .ofRatio false 7 10

def defaultModel : String := "chatglm_lite"

namespace Request

def standard : Request :=
  ⟨defaultModel, some defaultTemperature, some defaultTopP, []⟩

def record : Record Request where
  name := "ModelParams"
  blank := ⟨"", none, none, []⟩
  closed := false
  members := [
    .sparse "temperature" .nullable .single (·.temperature)
      fun temperature request => { request with temperature },
    .sparse "top_p" .nullable .single (·.topP)
      fun topP request => { request with topP },
    .plain "prompt" .required (.list Turn.codec) (·.prompt)
      fun prompt request => { request with prompt }]

/-- The codec of the body; what is read names no model. -/
def codec : Codec Request := record.codec

/-- Whether two optional sampling values are equal as numbers. -/
def samplingEquals : Option Single → Option Single → Bool
  | none, none => true
  | some first, some second => first.equals second
  | _, _ => false

/-- Whether two requests are equal, with their sampling values compared as
numbers: what is not a number equals nothing. -/
def equals (first second : Request) : Bool :=
  first.model == second.model &&
    samplingEquals first.temperature second.temperature &&
    samplingEquals first.topP second.topP && first.prompt == second.prompt

def body (request : Request) : String :=
  codec.toText request

end Request

end Parley.Wire
