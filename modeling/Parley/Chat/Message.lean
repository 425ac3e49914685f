import Parley.Schema.Record

/-!
Contract: the turns of a conversation.

Owns: `Role`, `Message`, their names and codecs, and the turns that a bare text
stands for.
-/

namespace Parley.Chat

open Parley.Schema (Codec Member Record)

/-- Who a turn comes from. A generic turn has no particular sender. -/
inductive Role where
  | system
  | user
  | assistant
  | generic
  | function
  | tool
deriving DecidableEq, Repr

namespace Role

def name : Role → String
  | system => "system"
  | user => "user"
  | assistant => "assistant"
  | generic => "generic"
  | function => "function"
  | tool => "tool"

def all : List Role :=
  [system, user, assistant, generic, function, tool]

def codec : Codec Role :=
  .enumeration (all.map fun role => (role.name, role)) name

end Role

/-- One turn: who it comes from, its text, and possibly the sender's name. -/
structure Message where
  role : Role
  content : String
  name : Option String
deriving DecidableEq, Repr

namespace Message

/-- A turn without a sender's name. -/
def ofRole (role : Role) (content : String) : Message :=
  ⟨role, content, none⟩

def system (content : String) : Message := ofRole .system content

def user (content : String) : Message := ofRole .user content

def assistant (content : String) : Message := ofRole .assistant content

def generic (content : String) : Message := ofRole .generic content

def function (name content : String) : Message :=
  ⟨.function, content, some name⟩

def record : Record Message where
  name := "Message"
  blank := user ""
  closed := false
  members := [
    .plain "role" .required Role.codec (·.role)
      fun role message => { message with role },
    .plain "content" .required .plainText (·.content)
      fun content message => { message with content },
    .sparse "name" .nullable .plainText (·.name)
      fun name message => { message with name }]

def codec : Codec Message := record.codec

end Message

/-- The turns of a prompt that is a bare text: one turn of the user. -/
def promptOfText (text : String) : List Message :=
  [.user text]

end Parley.Chat
