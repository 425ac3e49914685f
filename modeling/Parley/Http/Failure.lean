import Parley.Http.RequestId
import Parley.Http.Status
import Parley.Json.Reader
import Parley.Log
import Parley.Provider.Failure

/-!
Contract: the failures that a transport makes of what happened to a request.

Owns: `SendFault`, why a request got no response, and `ofStatus`, the failure
that a response with a status other than success reports.
-/

namespace Parley.Http

open Parley.Json (Value)
open Parley.Log (Entry)
open Parley.Provider (Failure)

/-- Why a request got no response: it could not be made, no connection could be
opened, the connection broke, or the time was up. An address is given where it
was understood. -/
inductive SendFault where
  | unbuildable (address : Option String)
  | refused (address : String)
  | broken (address : String)
  | timedOut
deriving DecidableEq, Repr

namespace SendFault

def text : SendFault → String
  | .unbuildable none => "builder error"
  | .unbuildable (some address) => "builder error for url (" ++ address ++ ")"
  | .refused address | .broken address =>
      "error sending request for url (" ++ address ++ ")"
  | .timedOut => "operation timed out"

def entry (id : RequestId) : SendFault → Entry
  | .timedOut => .warn ("Request timeout" ++ id.tag)
  | .refused address =>
      .error ("Connection error" ++ id.tag ++ ": " ++ (refused address).text)
  | fault => .error ("Request error" ++ id.tag ++ ": " ++ fault.text)

def failure (id : RequestId) : SendFault → Failure
  | .timedOut => .timeout
  | .refused address =>
      .network ("Connection failed: " ++ (refused address).text ++ id.tag)
  | fault => .network (fault.text ++ id.tag)

end SendFault

/-- The explanation in the body of a failed request: the first of four places
that holds a text. -/
def explanation? (body : Value) : Option String :=
  let nested : Option Value :=
    (body.member? "error").bind (Value.member? "message")
  ((body.member? "msg").bind Value.text?).or
    ((nested.bind Value.text?).or
      (((body.member? "message").bind Value.text?).or
        ((body.member? "error").bind Value.text?)))

/-- The explanation that the text of a body holds: the one in its JSON value if
there is one, and otherwise the text itself. -/
def explain (body : String) : String :=
  match Value.parse body with
  | .ok value => (explanation? value).getD body
  | .error _ => body

/-- What a failed request is explained with if nothing else is said. -/
def Status.plainExplanation (status : Status) : String :=
  "HTTP error " ++ toString status.code

/-- The failure that a response with a status other than success reports. -/
def ofStatus (status : Status) (body : Option String) (id : RequestId) :
    Failure :=
  if status.isTimeout then .timeout
  else
    let said := (body.map explain).filter fun text => !text.isEmpty
    .http status.code (said.getD status.plainExplanation ++ id.tag)

end Parley.Http
