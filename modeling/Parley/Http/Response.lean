import Parley.Coding.Gzip
import Parley.Http.BodyText
import Parley.Http.Status

/-!
Contract: the responses of a server, and how much of a body arrives.

A body ends after an announced number of bytes, after its last chunk, or when the
connection is closed. A connection that is closed earlier cuts the body, and one
on which nothing more happens leaves it unfinished for ever.

A header may say that the body is coded. Then the reader of the body gets what it
decodes to, of which no length is known before. A body that does not decode is
cut there; so is one that goes on behind what is decoded, unless the rest arrives
together with it.

Owns: `Framing`, `Response`, `Ending`, and the body that arrives.
-/

namespace Parley.Http

open Parley.Text (Bytes)

/-- How the end of a body is told: by its length, by a last chunk, which may be
missing, or by the end of the connection. -/
inductive Framing where
  | sized (length : Nat)
  | chunked (finished : Bool)
  | untilClose
deriving DecidableEq, Repr

/-- What a server answers: the bytes that it sends as a body, in the pieces in
which they are read, and whether the connection stays open after them. -/
structure Response where
  status : Status
  headers : List (String × String)
  framing : Framing
  pieces : List Bytes
  staysOpen : Bool

inductive Ending where
  | complete
  | cut
  | stalled
deriving DecidableEq, Repr

/-- As much of the pieces as makes a number of bytes. -/
def takeBytes : Nat → List Bytes → List Bytes
  | _, [] => []
  | count, piece :: rest =>
      if piece.length ≤ count then
        piece :: takeBytes (count - piece.length) rest
      else [piece.take count]

/-- How a body ends that has no more bytes although its end was not told. -/
def Ending.early (staysOpen : Bool) : Ending :=
  if staysOpen then .stalled else .cut

/-- The pieces that arrive after the one in which a number of bytes is reached. -/
def piecesAfter : Nat → List Bytes → List Bytes
  | _, [] => []
  | count, piece :: rest =>
      if count ≤ piece.length then rest
      else piecesAfter (count - piece.length) rest

/-- What becomes of a coded body that arrives in pieces. Without any bytes there is
nothing to decode. -/
def decodeContent (transfer : List Bytes × Ending) : List Bytes × Ending :=
  let (pieces, ending) := transfer
  let coded := pieces.flatten
  if coded.isEmpty then ([], ending)
  else
    let unpacked := Coding.Gzip.unpack coded
    ([unpacked.content],
      match unpacked.outcome with
      | .error .malformed => .cut
      | .error .short => if ending = .complete then .cut else ending
      | .ok rest =>
          let later := piecesAfter (coded.length - rest.length) pieces
          if later.flatten.isEmpty then ending else .cut)

/-- Whether headers tell that a body is coded. -/
def tellCoding (headers : List (String × String)) : Bool :=
  headers.any fun (name, value) =>
    ["content-encoding", "transfer-encoding"].contains name.toLower &&
      value == "gzip"

namespace Response

/-- The value of a header; the case of its name does not matter. -/
def header? (response : Response) (name : String) : Option String :=
  (response.headers.find? fun entry => entry.1.toLower == name).map (·.2)

/-- The pieces of the body that arrive as they were sent, and how it ends. -/
def transfer (response : Response) : List Bytes × Ending :=
  let unfinished := Ending.early response.staysOpen
  if !response.status.hasBody then ([], .complete)
  else
    match response.framing with
    | .sized length =>
        (takeBytes length response.pieces,
          if length ≤ response.pieces.flatten.length then .complete
          else unfinished)
    | .chunked finished =>
        (response.pieces, if finished then .complete else unfinished)
    | .untilClose =>
        (response.pieces,
          if response.staysOpen then .stalled else .complete)

/-- Whether the body is coded. One that is announced to be empty never is. -/
def isCoded (response : Response) : Bool :=
  response.framing != .sized 0 && tellCoding response.headers

/-- The pieces of the body for its reader, and how it ends. -/
def body (response : Response) : List Bytes × Ending :=
  if response.isCoded then decodeContent response.transfer else response.transfer

/-- The length of the body, where it is known before it arrives. -/
def knownLength? (response : Response) : Option Nat :=
  if response.isCoded then none
  else if !response.status.hasBody then some 0
  else
    match response.framing with
    | .sized length => some length
    | .chunked _ | .untilClose => none

/-- The text of the body, if all of it arrives. -/
def text? (response : Response) : Option String :=
  match response.body with
  | (pieces, .complete) =>
      some (decodeBody (response.header? "content-type") pieces.flatten)
  | _ => none

end Response

end Parley.Http
