import Parley.Text.Utf8

/-!
Contract: the tree of one YAML document.

Every node keeps where its text starts, together with its tag and its anchor. A
document whose text is malformed has the node `cut` where the text could no
longer be read, with the reason. Anchors and aliases share numbered slots: an
alias repeats the last node of the document whose anchor has the slot.

Owns: `Mark`, `Tag`, `Style`, `Head`, `Node` and the searches for an anchored node and
for a cut.
-/

namespace Parley.Yaml

open Parley.Text (Bytes Utf8.decode? Utf8.encode)

/-- A place in a text: the count of bytes before it, and its line and column
counted from zero. -/
structure Mark where
  index : Nat
  line : Nat
  column : Nat
deriving DecidableEq, Repr

namespace Mark

def start : Mark :=
  ⟨0, 0, 0⟩

def afterBreak (mark : Mark) (count : Nat) : Mark :=
  ⟨mark.index + count, mark.line + 1, 0⟩

/-- The place after one character that ends no line. -/
def afterChar (mark : Mark) (char : Char) : Mark :=
  ⟨mark.index + char.utf8Size, mark.line, mark.column + 1⟩

end Mark

/-- Why a text is malformed, and where that was found. -/
structure Malformation where
  reason : String
  mark : Mark
deriving DecidableEq, Repr

inductive Style where
  | plain
  | quoted
  | literal
  | folded
deriving DecidableEq, Repr

/-- A tag. Its escapes may spell bytes that are no text. -/
structure Tag where
  bytes : Bytes
deriving DecidableEq, Repr

namespace Tag

def ofText (text : String) : Tag :=
  ⟨Utf8.encode text⟩

def text? (tag : Tag) : Option String :=
  Utf8.decode? tag.bytes

/-- Whether a tag is of the document's own making: it starts with an exclamation
mark. -/
def isLocal (tag : Tag) : Bool :=
  tag.bytes.head? == some '!'.toUInt8

end Tag

/-- What stands before the content of a node: where the node starts, the slot of
its anchor, and its tag. -/
structure Head where
  mark : Mark
  anchor : Option Nat
  tag : Option Tag
deriving DecidableEq, Repr

def Head.bare (mark : Mark) : Head :=
  ⟨mark, none, none⟩

/-- A scalar: its tag, how it is written, and its text. -/
structure Scalar where
  tag : Option Tag
  style : Style
  text : String
deriving DecidableEq, Repr

def Head.scalar (head : Head) (style : Style) (text : String) : Scalar :=
  ⟨head.tag, style, text⟩

/-- A node of a document. The node `absent` is the root of a document without
content. -/
inductive Node where
  | scalar (head : Head) (style : Style) (text : String)
  | sequence (head : Head) (items : List Node)
  | mapping (head : Head) (entries : List (Node × Node))
  | alias (mark : Mark) (anchor : Nat)
  | absent (mark : Mark)
  | cut (malformation : Malformation)

namespace Node

mutual

def cut? : Node → Option Malformation
  | .cut malformation => some malformation
  | .sequence _ items => itemCut? items
  | .mapping _ entries => entryCut? entries
  | _ => none

def itemCut? : List Node → Option Malformation
  | [] => none
  | item :: rest => item.cut?.or (itemCut? rest)

def entryCut? : List (Node × Node) → Option Malformation
  | [] => none
  | (key, value) :: rest => (key.cut?.or value.cut?).or (entryCut? rest)

end

/-- The node itself, if its anchor has a slot. -/
def ownAnchor? (anchor : Nat) (head : Head) (node : Node) : Option Node :=
  if head.anchor = some anchor then some node else none

mutual

/-- The last node that starts in a node and whose anchor has a slot. -/
def anchored? (anchor : Nat) : Node → Option Node
  | .scalar head style text =>
      ownAnchor? anchor head (.scalar head style text)
  | .sequence head items =>
      (itemAnchored? anchor items).or
        (ownAnchor? anchor head (.sequence head items))
  | .mapping head entries =>
      (entryAnchored? anchor entries).or
        (ownAnchor? anchor head (.mapping head entries))
  | _ => none

def itemAnchored? (anchor : Nat) : List Node → Option Node
  | [] => none
  | item :: rest => (itemAnchored? anchor rest).or (item.anchored? anchor)

def entryAnchored? (anchor : Nat) : List (Node × Node) → Option Node
  | [] => none
  | (key, value) :: rest =>
      (entryAnchored? anchor rest).or
        ((value.anchored? anchor).or (key.anchored? anchor))

end

end Node

end Parley.Yaml
