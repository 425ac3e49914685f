import Parley.Chat.Message
import Parley.Wire.Request

/-!
Contract: the request that a call makes.

A request starts from the defaults of the client. An option of the call replaces
a default if it is usable: a sampling value if it lies strictly between zero and
one once rounded to 32 bits, a model if it has a name. The turns that the service
has a role for follow the turns of the defaults; the others are dropped.

Owns: `CallOptions`, `merge`, `turns` and `toRequest`.
-/

namespace Parley.Provider

open Parley.Chat (Message)
open Parley.Numeric (Double Single)
open Parley.Wire (Request Turn)

structure CallOptions where
  model : Option String
  temperature : Option Double
  topP : Option Double

namespace CallOptions

def none : CallOptions :=
  ⟨.none, .none, .none⟩

/-- How an optional value is shown to a person debugging. -/
def showOption (value : Option String) : String :=
  match value with
  | .none => "None"
  | some text => "Some(" ++ text ++ ")"

/-- The options as they are shown to a person debugging, with whether the answer
is streamed. -/
def forDebug (options : CallOptions) (streaming : Bool) : String :=
  let number (value : Double) : String := value.write Numeric.debugLayout
  "CallOptions \x7b model: " ++ showOption (options.model.map Text.quoted) ++
    ", temperature: " ++ showOption (options.temperature.map number) ++
    ", top_p: " ++ showOption (options.topP.map number) ++
    ", streaming: " ++ (if streaming then "true" else "false") ++ " \x7d"

end CallOptions

def samplingOverride (value : Option Double) : Option Single :=
  (value.map (Numeric.Binary.convert Numeric.single)).filter
    Numeric.Binary.insideUnit

def modelOverride (model : Option String) : Option String :=
  model.filter fun name => !name.isEmpty

/-- The defaults with the usable options in their place. -/
def merge (defaults : Request) (options : CallOptions) : Request where
  model := (modelOverride options.model).getD defaults.model
  temperature := (samplingOverride options.temperature).or defaults.temperature
  topP := (samplingOverride options.topP).or defaults.topP
  prompt := defaults.prompt

/-- The role of a turn on the wire; the service has none for some roles. -/
def wireRole? : Chat.Role → Option Wire.Role
  | .assistant => some .assistant
  | .user | .generic => some .user
  | .system | .function | .tool => none

def turn? (message : Message) : Option Turn :=
  (wireRole? message.role).map fun role => ⟨role, message.content⟩

def turns (messages : List Message) : List Turn :=
  messages.filterMap turn?

def droppedRoles (messages : List Message) : List Chat.Role :=
  (messages.filter fun message => (wireRole? message.role).isNone).map
    (·.role)

def toRequest (defaults : Request) (options : CallOptions)
    (messages : List Message) : Request :=
  let merged := merge defaults options
  { merged with prompt := merged.prompt ++ turns messages }

end Parley.Provider
