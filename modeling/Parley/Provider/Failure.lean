import Parley.Json.Fault

/-!
Contract: why a call of the model service failed.

Owns: `Failure`, its message, and which failures come from the transport.
-/

namespace Parley.Provider

inductive Failure where
  | emptyPrompt
  | emptyResponse (code : Option Int64) (message : String)
  | network (message : String)
  | timeout
  | http (status : Nat) (message : String)
  | decode (context : String) (fault : Json.LocatedFault)
  | sink (message : String)
  | cancelled
  | configuration (message : String)
deriving DecidableEq

namespace Failure

/-- The failure of an answer without content, outside of any envelope. -/
def noContent : Failure :=
  .emptyResponse none ""

def undecodable (fault : Json.LocatedFault) : Failure :=
  .decode "response" fault

def codeText : Option Int64 → String
  | none => "none"
  | some code => toString code.toInt

def message : Failure → String
  | .emptyPrompt => "empty prompt"
  | .emptyResponse code message =>
      "no response: " ++ message ++ " (code: " ++ codeText code ++ ")"
  | .network message => "Network error: " ++ message
  | .timeout => "Request timed out"
  | .http status message =>
      "HTTP error " ++ toString status ++ ": " ++ message
  | .decode context fault =>
      "Failed to decode " ++ context ++ ": " ++ fault.message
  | .sink message => "Streaming sink failed: " ++ message
  | .cancelled => "Invocation cancelled"
  | .configuration message => "Configuration error: " ++ message

def isTransport : Failure → Bool
  | .network _ | .timeout | .http _ _ => true
  | _ => false

end Failure

end Parley.Provider
