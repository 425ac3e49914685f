import Parley.Coding.Base64
import Parley.Http.EventStream
import Parley.Http.Failure
import Parley.Url.Address

/-!
Contract: calls of the model service as requests and responses.

A call is a request whose address names the model and the kind of the call. What
credentials the address holds are sent in a header instead. Only a call with one
answer has a limit of time, and only its answer has a limit of size, which counts
where the size is known in advance.

Owns: `Endpoint`, `Post`, `Endpoint.post`, and what calls make of responses.
-/

namespace Parley.Http

open Parley.Log (Entry)
open Parley.Provider (Failure)
open Parley.Session (StreamItem)
open Parley.Text (Utf8.decode? Utf8.encode)
open Parley.Url (Address Credentials)
open Parley.Wire (CallKind Envelope Request)

/-- Where and on whose behalf the service is called. -/
structure Endpoint where
  baseUrl : String
  apiKey : String

/-- A request: where it goes, what is asked for, and what is sent. -/
structure Post where
  address : Address
  headers : List (String × String)
  body : String

def Post.line (post : Post) : String :=
  "POST " ++ String.ofList post.address.target ++ " HTTP/1.1"

def clientVersion : String := "0.1.0"

/-- What the client calls itself in requests. -/
def userAgent : String := "zhipu-core/" ++ clientVersion

def trimSolidi (text : String) : String :=
  String.ofList ((text.toList.reverse.dropWhile (· == '/')).reverse)

def isHeaderText (value : String) : Bool :=
  value.toList.all fun char => char == '\t' || !Url.Percent.isControl char

/-- The characters of domain names that no request can be sent to. -/
def isUnsendable (char : Char) : Bool :=
  ['"', '\u0060', '\x7b', '\x7d'].contains char

def isSendable (address : Address) : Bool :=
  (address.scheme == "http" || address.scheme == "https") &&
    match address.host with
    | some (.domain name) => !name.any isUnsendable
    | _ => true

/-- A name and a password that are text. -/
structure Login where
  name : String
  password : Option String

/-- The credentials of an address as text. A password that is no text is left
out. -/
def Login.ofCredentials? (credentials : Credentials) : Option Login := do
  let name ← Utf8.decode? (Url.Percent.decode credentials.name)
  let password := credentials.password.bind fun password =>
    Utf8.decode? (Url.Percent.decode password)
  if name.isEmpty && password.isNone then none else some ⟨name, password⟩

def Login.header (login : Login) : String × String :=
  let text := login.name ++ ":" ++ login.password.getD ""
  ("authorization",
    "Basic " ++ String.ofList (Coding.Base64.encode (Utf8.encode text)))

namespace Endpoint

def url (endpoint : Endpoint) (kind : CallKind) (model : String) : String :=
  trimSolidi endpoint.baseUrl ++ "/" ++ model ++ "/" ++ kind.endpoint

/-- The headers of a request. A login does not take the place of the key. -/
def headers (endpoint : Endpoint) (kind : CallKind) (id : RequestId)
    (login : Option Login) : List (String × String) :=
  [("accept",
      match kind with
      | .single => "*/*"
      | .streamed => "text/event-stream"),
    ("accept-encoding", "gzip")] ++
  (login.map Login.header).toList ++
  [("authorization", endpoint.apiKey), ("content-type", "application/json"),
    ("user-agent", userAgent), ("x-request-id", id.text)]

def post (endpoint : Endpoint) (kind : CallKind) (id : RequestId)
    (request : Request) : Except SendFault Post :=
  match Address.parse (endpoint.url kind request.model) with
  | .error _ => .error (.unbuildable none)
  | .ok written =>
      let login := written.credentials.bind Login.ofCredentials?
      let address :=
        if login.isSome then { written with credentials := none } else written
      if address.host.isNone then
        .error (.unbuildable (some address.write))
      else if !isHeaderText endpoint.apiKey then .error (.unbuildable none)
      else if !isSendable address then
        .error (.unbuildable (some address.write))
      else .ok ⟨address, endpoint.headers kind id login, request.body⟩

end Endpoint

def callEntry (kind : CallKind) (model : String) (id : RequestId) : Entry :=
  match kind with
  | .single => .info ("Invoking model " ++ model ++ id.tag)
  | .streamed => .info ("Opening event stream for model " ++ model ++ id.tag)

/-- A failure, with what the log says about it. -/
structure Report where
  entries : List Entry
  failure : Failure

def accept (id : RequestId) (model : String) :
    Except SendFault Response → Except Report Response
  | .error fault => .error ⟨[fault.entry id], fault.failure id⟩
  | .ok response =>
      if response.status.isSuccess then .ok response
      else
        .error
          { entries := [.warn ("Request failed with status " ++
              response.status.text ++ " for model " ++ model ++ id.tag)]
            failure := ofStatus response.status response.text? id }

/-- The largest number of bytes that the answer to a call may have. -/
def sizeLimit : Nat := 10 * 1024 * 1024

def readEnvelope (id : RequestId) (text : String) : Except Report Envelope :=
  match Envelope.codec.parse text with
  | .ok envelope => .ok envelope
  | .error fault =>
      .error
        { entries := [.error ("Failed to parse response envelope" ++ id.tag ++
            ": " ++ fault.message)]
          failure := .decode ("response envelope" ++ id.tag) fault }

def envelopeOf (id : RequestId) (response : Response) :
    Except Report Envelope :=
  match response.knownLength?.filter (sizeLimit < ·) with
  | some length =>
      .error ⟨[], .network ("Response size " ++ toString length ++
        " exceeds maximum " ++ toString sizeLimit ++ id.tag)⟩
  | none =>
      match response.text? with
      | none =>
          .error ⟨[], .network ("Failed to read response body: " ++
            "error decoding response body" ++ id.tag)⟩
      | some text => readEnvelope id text

/-- What a call with one answer makes of the response to its request. -/
def single (id : RequestId) (model : String)
    (outcome : Except SendFault Response) : Except Report Envelope :=
  match accept id model outcome with
  | .error report => .error report
  | .ok response => envelopeOf id response

def itemsOf (id : RequestId) (response : Response) : List StreamItem :=
  let (pieces, ending) := response.body
  let (found, fault) := events pieces ending
  found.map Except.ok ++
    (fault.toList.map fun fault =>
      .error (.network ("Stream error: " ++ fault.text ++ id.tag)))

/-- A stream: its items, and whether it ends after them. -/
structure OpenStream where
  items : List StreamItem
  ends : Bool

/-- What a streamed call makes of the response to its request. -/
def streamed (id : RequestId) (model : String)
    (outcome : Except SendFault Response) : Except Report OpenStream :=
  match accept id model outcome with
  | .error report => .error report
  | .ok response =>
      .ok ⟨itemsOf id response, response.body.2 != .stalled⟩

end Parley.Http
