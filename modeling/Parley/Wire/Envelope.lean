import Parley.Schema.Record

/-!
Contract: what the model service answers to a single call.

An envelope carries a status code and a message, and on success an answer: the
candidates for the next turn and the count of tokens that were used. Every field
but the code and the content of a candidate may be absent.

Owns: `Envelope`, `Answer`, `Choice`, `Usage` and their codecs.
-/

namespace Parley.Wire

open Parley.Schema (Codec Record)

/-- The count of tokens of a call. -/
structure Usage where
  promptTokens : UInt64
  completionTokens : UInt64
  totalTokens : UInt64
deriving DecidableEq, Repr

namespace Usage

def record : Record Usage where
  name := "Usage"
  blank := ⟨0, 0, 0⟩
  closed := false
  members := [
    .plain "prompt_tokens" .defaulted .u64 (·.promptTokens)
      fun promptTokens usage => { usage with promptTokens },
    .plain "completion_tokens" .defaulted .u64 (·.completionTokens)
      fun completionTokens usage => { usage with completionTokens },
    .plain "total_tokens" .defaulted .u64 (·.totalTokens)
      fun totalTokens usage => { usage with totalTokens }]

def codec : Codec Usage := record.codec

end Usage

/-- One candidate for the next turn. Its content is what the service wrote, which
still has to be decoded. -/
structure Choice where
  role : Option String
  content : String
deriving DecidableEq, Repr

namespace Choice

def record : Record Choice where
  name := "Choice"
  blank := ⟨none, ""⟩
  closed := false
  members := [
    .sparse "role" .defaulted .plainText (·.role)
      fun role choice => { choice with role },
    .plain "content" .required .plainText (·.content)
      fun content choice => { choice with content }]

def codec : Codec Choice := record.codec

end Choice

/-- What a successful envelope carries. -/
structure Answer where
  requestId : Option String
  taskId : Option String
  taskStatus : Option String
  choices : List Choice
  usage : Usage
deriving DecidableEq, Repr

namespace Answer

/-- The answer in which everything is absent. -/
def blank : Answer :=
  ⟨none, none, none, [], ⟨0, 0, 0⟩⟩

def record : Record Answer where
  name := "ResponseData"
  blank := blank
  closed := false
  members := [
    .sparse "request_id" .defaulted .plainText (·.requestId)
      fun requestId answer => { answer with requestId },
    .sparse "task_id" .defaulted .plainText (·.taskId)
      fun taskId answer => { answer with taskId },
    .sparse "task_status" .defaulted .plainText (·.taskStatus)
      fun taskStatus answer => { answer with taskStatus },
    .plain "choices" .defaulted (.list Choice.codec) (·.choices)
      fun choices answer => { answer with choices },
    .plain "usage" .defaulted Usage.codec (·.usage)
      fun usage answer => { answer with usage }]

def codec : Codec Answer := record.codec

end Answer

structure Envelope where
  code : Int64
  msg : String
  success : Bool
  data : Option Answer
deriving DecidableEq

namespace Envelope

def record : Record Envelope where
  name := "Response"
  blank := ⟨0, "", false, none⟩
  closed := false
  members := [
    .plain "code" .required .i64 (·.code)
      fun code envelope => { envelope with code },
    .plain "msg" .defaulted .plainText (·.msg)
      fun msg envelope => { envelope with msg },
    .plain "success" .defaulted .boolean (·.success)
      fun success envelope => { envelope with success },
    .sparse "data" .defaulted Answer.codec (·.data)
      fun data envelope => { envelope with data }]

def codec : Codec Envelope := record.codec

end Envelope

end Parley.Wire
