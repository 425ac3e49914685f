import Parley.Schema.Record
import Parley.Yaml.Document

/-!
Contract: the value that a whole YAML text holds.

A text may hold one document. What is wrong with the data comes before what is
wrong with the text after it.

Owns: `Codec.parseYaml`.
-/

namespace Parley.Schema

/-- The fault of what comes after a document, if it may not come there. -/
def afterFault? : Yaml.Ending → Option Yaml.Fault
  | .finished => none
  | .several => some ⟨.severalDocuments, [], none⟩
  | .malformed malformation => some malformation.fault

def Codec.parseYaml {α : Type} (codec : Codec α) (text : String) :
    Except Yaml.Fault α :=
  let document := Yaml.Document.parse text
  match codec.node ⟨document.root, [], document.root⟩ with
  | .error fault => .error fault
  | .ok value =>
      match (document.root.cut?.map Yaml.Malformation.fault).or
          (afterFault? document.ending) with
      | some fault => .error fault
      | none => .ok value

end Parley.Schema
