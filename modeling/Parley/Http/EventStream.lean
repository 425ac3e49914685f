import Parley.Http.Response
import Parley.Session.Program

/-!
Contract: streams of events in the body of a response.

The body is text in UTF-8, whose lines end with a line feed, a carriage return,
or both in this order. A line is a field: a name, and behind a colon a value,
from which one leading space is dropped. The fields before a blank line make an
event if one of them holds data. A carriage return at the end of what was read
does not end its line yet, and a line that is not ended makes no field.

Owns: `Draft`, `Scan`, `Feed`, `StreamFault` and `events`.
-/

namespace Parley.Http

open Parley.Session (StreamEvent)
open Parley.Text (Bytes Utf8.encode Utf8.pieces Utf8.validPart)

/-- The fields of an event that is not complete: its kind, and the lines of its
data, the last one first. -/
structure Draft where
  kind : List Char
  data : List (List Char)

namespace Draft

def empty : Draft :=
  ⟨[], []⟩

/-- The kind of events that name none. -/
def plainKind : String := "message"

def splitField (line : List Char) : List Char × List Char :=
  let name := line.takeWhile (· ≠ ':')
  match line.drop name.length with
  | ':' :: ' ' :: value => (name, value)
  | ':' :: value => (name, value)
  | _ => (name, [])

/-- The fields with one more line. Comments, whose name is empty, and fields of
other names do not count. -/
def addLine (draft : Draft) (line : List Char) : Draft :=
  let (name, value) := splitField line
  if name = "event".toList then { draft with kind := value }
  else if name = "data".toList then
    { draft with data := value :: draft.data }
  else draft

/-- The event that the fields make, if they hold data. -/
def event? (draft : Draft) : Option StreamEvent :=
  if draft.data.isEmpty then none
  else
    let payload := (draft.data.reverse.intersperse ['\n']).flatten
    some
      { kind := if draft.kind.isEmpty then plainKind
          else String.ofList draft.kind
        payload := Utf8.encode (String.ofList payload) }

end Draft

/-- How far the text was read: the line under way, its last character first,
whether a carriage return follows it, the fields of the event under way, and the
events so far, the last one first. -/
structure Scan where
  line : List Char
  returned : Bool
  draft : Draft
  events : List StreamEvent

namespace Scan

def start : Scan :=
  ⟨[], false, .empty, []⟩

/-- Ends the line under way. A blank line ends an event. -/
def endLine (scan : Scan) : Scan :=
  if scan.line.isEmpty then
    ⟨[], false, .empty, scan.draft.event?.toList ++ scan.events⟩
  else ⟨[], false, scan.draft.addLine scan.line.reverse, scan.events⟩

/-- Reads a character where no carriage return came before. -/
def takeChar (scan : Scan) (char : Char) : Scan :=
  if char = '\n' then scan.endLine
  else if char = '\r' then { scan with returned := true }
  else { scan with line := char :: scan.line }

def step (scan : Scan) (char : Char) : Scan :=
  if scan.returned then
    if char = '\n' then scan.endLine else scan.endLine.takeChar char
  else scan.takeChar char

end Scan

/-- How far the body was read: the bytes that are no characters yet, whether any
characters were read, and how far the text was read. -/
structure Feed where
  undecoded : Bytes
  started : Bool
  scan : Scan

namespace Feed

def start : Feed :=
  ⟨[], false, .start⟩

/-- The text without a mark of its byte order at its start. -/
def dropMark : List Char → List Char
  | '\uFEFF' :: rest => rest
  | text => text

def take (feed : Feed) (piece : Bytes) : Feed :=
  let (text, rest) := Utf8.validPart (feed.undecoded ++ piece)
  let counted := if feed.started then text else dropMark text
  { undecoded := rest
    started := feed.started || !text.isEmpty
    scan := counted.foldl Scan.step feed.scan }

end Feed

/-- What breaks a stream: its body is cut, or what is left of it at its end does
not start with a character, because the first bytes are malformed or because the
body ends inside it. -/
inductive StreamFault where
  | cut
  | malformed (length : Nat)
  | unfinished
deriving DecidableEq, Repr

def StreamFault.text : StreamFault → String
  | .cut => "Transport error: error decoding response body"
  | .malformed length =>
      "UTF8 error: invalid utf-8 sequence of " ++ toString length ++
        " bytes from index 0"
  | .unfinished => "UTF8 error: incomplete utf-8 byte sequence from index 0"

/-- What is wrong with the bytes that are left at the end of a body. -/
def leftFault? (left : Bytes) : Option StreamFault :=
  match Utf8.pieces left with
  | .malformed _ true :: _ => some .unfinished
  | .malformed bytes false :: _ => some (.malformed bytes.length)
  | _ => none

/-- The events of a body in pieces, and what breaks the stream after them. -/
def events (pieces : List Bytes) (ending : Ending) :
    List StreamEvent × Option StreamFault :=
  let feed := pieces.foldl Feed.take .start
  (feed.scan.events.reverse,
    match ending with
    | .complete => leftFault? feed.undecoded
    | .cut => some .cut
    | .stalled => none)

end Parley.Http
