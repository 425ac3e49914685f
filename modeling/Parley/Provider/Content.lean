import Parley.Chat.Generation
import Parley.Provider.Failure
import Parley.Text.Blank
import Parley.Wire.Envelope

/-!
Contract: the text of an answer.

The service writes the content of a candidate as a JSON string literal. The text
of an answer is what that literal denotes, without the blanks at either end; an
answer of which nothing is left is no answer.

Owns: the decoders of content, `usageInfo` and `decodeGeneration`.
-/

namespace Parley.Provider

open Parley.Chat (Generation Info)
open Parley.Wire (Usage)

/-- How the text of an answer is recovered from the content of a candidate. -/
abbrev ContentDecoder := String → Except Failure String

def plainContent : ContentDecoder :=
  .ok

/-- Content that is a JSON string literal. -/
def literalContent : ContentDecoder := fun content =>
  (Schema.Codec.plainText.parse content).mapError (.decode "choice content")

/-- The keys of the counts of tokens. -/
def totalTokensKey : String := "TotalTokens"
def promptTokensKey : String := "PromptTokens"
def completionTokensKey : String := "CompletionTokens"

/-- The metadata of a count of tokens: the total always, the parts if they are
not zero. -/
def usageInfo (usage : Usage) : Info :=
  let count (key : String) (tokens : UInt64) (info : Info) : Info :=
    Json.insertMember key (.number (.integer tokens.toNat)) info
  let part (key : String) (tokens : UInt64) (info : Info) : Info :=
    if 0 < tokens then count key tokens info else info
  part completionTokensKey usage.completionTokens
    (part promptTokensKey usage.promptTokens
      (count totalTokensKey usage.totalTokens []))

/-- The answer that the content of the first candidate makes. -/
def decodeGeneration (decoder : ContentDecoder) (content : Option String)
    (usage : Usage) : Except Failure Generation :=
  match content with
  | none => .error .noContent
  | some raw =>
      match decoder raw with
      | .error failure => .error failure
      | .ok decoded =>
          let text := Text.trim decoded
          if text.isEmpty then .error .noContent
          else .ok ⟨text, some (.assistant text), usageInfo usage⟩

end Parley.Provider
