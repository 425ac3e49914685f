import Parley.Chat.Message

/-!
Contract: one answer of a model.

Owns: `Generation`, its codec, and the metadata held beside the text.
-/

namespace Parley.Chat

open Parley.Json (Reading Value)
open Parley.Schema (Codec Reader Record)

/-- Metadata of an answer, in the order of its keys. -/
abbrev Info := List (String × Value)

namespace Info

def readText (allowance : Nat) (text : List Char) : Reading Info :=
  match Json.skipBlank text with
  | [] => .error (.upon .endOfValue [])
  | '\x7b' :: rest =>
      Reader.openContainer allowance ('\x7b' :: rest) fun inner members =>
        Json.readMembers (Json.readValue inner) members
  | start => Reader.refuseStart "a map" start

def ofValue : Value → Except Schema.Refusal Info
  | .object members => .ok members
  | source => Schema.refuseType "a map" source.found

/-- The codec of metadata, which no YAML document holds. -/
def codec : Codec Info where
  text := readText
  value := ofValue
  node _ := Schema.Place.missing
  write := .object

end Info

/-- An answer: its text, the turn that it makes, and metadata. -/
structure Generation where
  text : String
  message : Option Message
  info : Info

namespace Generation

def ofText (text : String) : Generation :=
  ⟨text, none, []⟩

/-- The members of an answer. Empty metadata is not written. -/
def record : Record Generation where
  name := "Generation"
  blank := ofText ""
  closed := false
  members := [
    .plain "text" .required .plainText (·.text)
      fun text generation => { generation with text },
    .sparse "message" .nullable Message.codec (·.message)
      fun message generation => { generation with message },
    { key := "generation_info"
      absence := .defaulted
      reader := Info.codec.toReader.map
        fun info generation => { generation with info }
      write := fun generation =>
        if generation.info.isEmpty then none
        else some (Info.codec.write generation.info) }]

def codec : Codec Generation := record.codec

def toMessage (generation : Generation) : Message :=
  generation.message.getD (.assistant generation.text)

end Generation

end Parley.Chat
