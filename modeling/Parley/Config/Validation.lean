import Parley.Config.Placeholder
import Parley.Config.Settings
import Parley.Log
import Parley.Url.Address

/-!
Contract: which settings are admissible.

Owns: `Rejection`, the checks of each part of the settings, `validate`, which
runs all of them in a fixed order, and the warnings about admissible settings.
-/

namespace Parley.Config

open Parley.Log (Entry)
open Parley.Numeric (Single)

inductive Problem where
  | missing
  | outOfRange (message : String)
  | unresolvedPlaceholder (name : String)
  | invalidUrl (message : String)
  | unsupportedVersion (actual : String)
deriving DecidableEq, Repr

def Problem.message : Problem → String
  | .missing => "value is required"
  | .outOfRange message => message
  | .unresolvedPlaceholder name =>
      "unresolved placeholder '$\x7b" ++ name ++ "\x7d'"
  | .invalidUrl message => "not a usable URL: " ++ message
  | .unsupportedVersion actual =>
      "schema version " ++ actual ++ " is not supported (expected " ++
        supportedVersion ++ ")"

/-- A field that is not admissible, named by its path, and why. -/
structure Rejection where
  field : String
  problem : Problem
deriving DecidableEq, Repr

def Rejection.message (rejection : Rejection) : String :=
  "invalid config field '" ++ rejection.field ++ "': " ++
    rejection.problem.message

def require (condition : Bool) (field : String) (problem : Problem) :
    Except Rejection Unit :=
  if condition then .ok () else .error ⟨field, problem⟩

/-- Whether a sampling value is unset or lies strictly between zero and one. -/
def isAdmissible (value : Option Single) : Bool :=
  value.all Numeric.Binary.insideUnit

namespace Defaults

def validate (path : String) (defaults : Defaults) : Except Rejection Unit := do
  let range : Problem := .outOfRange "Must be strictly between 0.0 and 1.0"
  require (!defaults.model.isEmpty) (path ++ ".model") .missing
  require (isAdmissible defaults.temperature) (path ++ ".temperature") range
  require (isAdmissible defaults.topP) (path ++ ".top_p") range

end Defaults

namespace Connection

def validate (path : String) (connection : Connection) :
    Except Rejection Unit := do
  let range : Problem := .outOfRange "Must be greater than 0"
  require (0 < connection.connectTimeoutMs) (path ++ ".connect_timeout_ms")
    range
  require (0 < connection.requestTimeoutMs) (path ++ ".request_timeout_ms")
    range

end Connection

/-- Why an address cannot be the base of requests, if it cannot. -/
def urlProblem? (text : String) : Option Problem :=
  match Url.Address.parse text with
  | .error fault => some (.invalidUrl fault.message)
  | .ok address =>
      if address.scheme == "http" || address.scheme == "https" then none
      else
        some (.invalidUrl
          ("scheme must be http or https, got " ++ address.scheme))

def rejectIf (field : String) : Option Problem → Except Rejection Unit
  | none => .ok ()
  | some problem => .error ⟨field, problem⟩

namespace Settings

def validateFields (settings : Settings) : Except Rejection Unit := do
  require (!settings.version.isEmpty) "version" .missing
  require (settings.version == supportedVersion) "version"
    (.unsupportedVersion settings.version)
  require (!settings.apiKey.value.isEmpty) "api_key" .missing
  rejectIf "base_url" (urlProblem? settings.baseUrl)
  settings.defaults.validate "defaults"
  settings.connection.validate "connection"

def rejectPlaceholder (field text : String) : Except Rejection Unit :=
  rejectIf field
    ((Placeholder.variableNames text).head?.map .unresolvedPlaceholder)

/-- Checks that no placeholder is left, and then all fields. -/
def validate (settings : Settings) : Except Rejection Unit := do
  rejectPlaceholder "api_key" settings.apiKey.value
  rejectPlaceholder "base_url" settings.baseUrl
  settings.validateFields

end Settings

def knownModels : List String :=
  ["chatglm_lite", "chatglm_std", "chatglm_pro", "chatglm_turbo", "chatglm_6b"]

def isKnownModel (model : String) : Bool :=
  knownModels.contains model

/-- What is unusual about admissible settings. -/
def Settings.warnings (settings : Settings) : List Entry :=
  (if settings.apiKey.hasKeyForm then []
    else [.warn "api_key does not look like '<id>.<secret>'"]) ++
  (if isKnownModel settings.defaults.model then []
    else
      [.warn ("default model '" ++ settings.defaults.model ++
        "' is not a known model")])

/-- Checks settings and, if they are admissible, tells what is unusual about
them. -/
def Settings.review (settings : Settings) : Except Rejection (List Entry) :=
  settings.validate.map fun _ => settings.warnings

end Parley.Config
