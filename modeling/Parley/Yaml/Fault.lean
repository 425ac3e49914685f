import Parley.Yaml.Scalar

/-!
Contract: faults of YAML documents and where they are.

Owns: `Path`, the way from the root to a node; `Cause`, `Fault` and the message
of a fault.
-/

namespace Parley.Yaml

open Parley.Schema (Refusal)

inductive Segment where
  | key (name : String)
  | item (index : Nat)
  | unnamed
deriving DecidableEq

/-- The steps to a node, the last one first. -/
abbrev Path := List Segment

/-- The text of a path; the root is a full stop. -/
def Path.toText : Path → String
  | [] => "."
  | .item index :: parent =>
      Path.toText parent ++ "[" ++ toString index ++ "]"
  | [.key name] => name
  | .key name :: parent => Path.toText parent ++ "." ++ name
  | [.unnamed] => "?"
  | .unnamed :: parent => Path.toText parent ++ ".?"

/-- What is wrong with a document, or with the value that it spells. -/
inductive Cause where
  | malformed (reason : String)
  | endOfStream
  | severalDocuments
  | refused (refusal : Refusal)
deriving DecidableEq

def wording : Schema.Wording where
  unit := "unit value"
  float := fun value => value.write Numeric.plainLayout

def Cause.message : Cause → String
  | .malformed reason => reason
  | .endOfStream => "EOF while parsing a value"
  | .severalDocuments =>
      "deserializing from YAML containing more than one document " ++
        "is not supported"
  | .refused refusal => refusal.message wording

/-- A fault: its cause, the path to the node that has it, and its mark. A fault
of the document as a whole has no mark. -/
structure Fault where
  cause : Cause
  path : Path
  mark : Option Mark
deriving DecidableEq

def Malformation.fault (malformation : Malformation) : Fault :=
  ⟨.malformed malformation.reason, [], some malformation.mark⟩

/-- The text of the place of a mark; lines and columns are counted from one. -/
def Mark.toText (mark : Mark) : String :=
  " at line " ++ toString (mark.line + 1) ++ " column " ++
    toString (mark.column + 1)

def Mark.isFirst (mark : Mark) : Bool :=
  mark.line == 0 && mark.column == 0

/-- The message of a fault: its path below the root, its cause, and its place
unless that is the very beginning. -/
def Fault.message (fault : Fault) : String :=
  let place :=
    match fault.mark with
    | some mark => if mark.isFirst then "" else mark.toText
    | none => ""
  let path := if fault.path.isEmpty then "" else fault.path.toText ++ ": "
  path ++ fault.cause.message ++ place

end Parley.Yaml
