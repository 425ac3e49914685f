import Parley.Schema.Reader

/-!
Contract: records, the values with named members.

A record stands in an object under the keys of its members, in any order, or in
a JSON list in the order of its members. A member that is absent from an object
keeps its value in the blank record, unless it is required. In a list only the
members with a default may be absent, at its end.

Owns: `Codec`, `Member`, `Record` and the codec of a record.
-/

namespace Parley.Schema

open Parley.Json (Reading skipBlank)

/-- How the values of a type are read and written. -/
structure Codec (α : Type) extends Reader α where
  write : α → Json.Value

namespace Codec

variable {α : Type}

def plainText : Codec String := ⟨textType.reader, .text⟩

def boolean : Codec Bool := ⟨booleanType.reader, .boolean⟩

def u32 : Codec UInt32 :=
  ⟨u32Type.reader, fun value => .number (.integer value.toNat)⟩

def u64 : Codec UInt64 :=
  ⟨u64Type.reader, fun value => .number (.integer value.toNat)⟩

def i64 : Codec Int64 :=
  ⟨i64Type.reader, fun value => .number (.integer value.toInt)⟩

def single : Codec Numeric.Single :=
  ⟨singleType.reader, fun value => .number (.single value)⟩

/-- The codec of optional values; no value is written as `null`. -/
def optional (codec : Codec α) : Codec (Option α) :=
  ⟨codec.toReader.optional, fun value =>
    match value with
    | none => .null
    | some held => codec.write held⟩

def list (codec : Codec α) : Codec (List α) :=
  ⟨codec.toReader.list, fun values => .sequence (values.map codec.write)⟩

def enumeration (variants : List (String × α)) (name : α → String) : Codec α :=
  ⟨Reader.enumeration variants, fun value => .text (name value)⟩

def toText (codec : Codec α) (value : α) : String :=
  (codec.write value).toText

def parse (codec : Codec α) (text : String) : Except Json.LocatedFault α :=
  (Json.closeText (codec.text Json.depthLimit text.toList)).mapError
    (Json.Fault.locate text.toList)

end Codec

/-- When a member may be absent. -/
inductive Absence where
  | required
  | nullable
  | defaulted
deriving DecidableEq, Repr

/-- A member of a record: its key, when it may be absent, how it is read into a
record, and how it is written, if it is. -/
structure Member (σ : Type) where
  key : String
  absence : Absence
  reader : Reader (σ → σ)
  write : σ → Option Json.Value

namespace Member

variable {σ α : Type}

def plain (key : String) (absence : Absence) (codec : Codec α) (get : σ → α)
    (set : α → σ → σ) : Member σ where
  key := key
  absence := absence
  reader := codec.toReader.map set
  write record := some (codec.write (get record))

/-- An optional member, written only if it has a value. -/
def sparse (key : String) (absence : Absence) (codec : Codec α)
    (get : σ → Option α) (set : Option α → σ → σ) : Member σ where
  key := key
  absence := absence
  reader := codec.optional.toReader.map set
  write record := (get record).map codec.write

end Member

/-- A record type: its name in messages, the record in which no member was read,
its members in order, and whether other keys are refused. -/
structure Record (σ : Type) where
  name : String
  blank : σ
  members : List (Member σ)
  closed : Bool

/-- A record as far as it was read, with the keys that were met. -/
structure Assembly (σ : Type) where
  value : σ
  seen : List String

def Assembly.add {σ : Type} (assembly : Assembly σ) (key : String)
    (update : σ → σ) : Assembly σ :=
  ⟨update assembly.value, key :: assembly.seen⟩

namespace Record

variable {σ : Type} (record : Record σ)

def start : Assembly σ :=
  ⟨record.blank, []⟩

inductive Demand (σ : Type) where
  | member (member : Member σ)
  | skip
  | refuse (refusal : Refusal)

def demand (assembly : Assembly σ) (key : String) : Demand σ :=
  match record.members.find? (·.key == key) with
  | some member =>
      if assembly.seen.contains key then .refuse (.duplicateField key)
      else .member member
  | none =>
      if record.closed then
        .refuse (.unknownField key (record.members.map Member.key))
      else .skip

/-- The record, unless a required member was not met. -/
def finish (assembly : Assembly σ) : Except Refusal σ :=
  match record.members.find? fun member =>
      member.absence == .required && !assembly.seen.contains member.key with
  | some member => .error (.missingField member.key)
  | none => .ok assembly.value

def expected : String :=
  "struct " ++ record.name

def tooShort (length : Nat) : Refusal :=
  .wrongLength length
    (record.expected ++ " with " ++ toString record.members.length ++
      (if record.members.length = 1 then " element" else " elements"))

def readMember (allowance : Nat) (assembly : Assembly σ) (key : String)
    (text : List Char) : Reading (Except Refusal (Assembly σ)) :=
  match record.demand assembly key with
  | .refuse refusal => .ok (.error refusal, text)
  | .skip =>
      (Json.readColon text >>= Json.skipValue).map fun rest =>
        (.ok assembly, rest)
  | .member member =>
      match Json.readColon text with
      | .error fault => .error fault
      | .ok start =>
          (member.reader.text allowance start).map fun (update, rest) =>
            (.ok (assembly.add key update), rest)

def readTuple (allowance : Nat) :
    List (Member σ) → Nat → Bool → σ → List Char → Reading (Except Refusal σ)
  | [], _, _, value, text => .ok (.ok value, text)
  | member :: rest, index, first, value, text =>
      match Json.nextItem first text with
      | .error fault => .error fault
      | .ok (false, after) =>
          if member.absence = .defaulted then
            readTuple allowance rest (index + 1) first value after
          else .ok (.error (record.tooShort index), after)
      | .ok (true, start) =>
          match member.reader.text allowance start with
          | .error fault => .error fault
          | .ok (update, after) =>
              readTuple allowance rest (index + 1) false (update value) after

/-- Ends a container. A refusal of what stands in it is placed where the attempt
to end the container stopped. -/
def settle (close : List Char → Except Json.Fault (List Char)) :
    Reading (Except Refusal σ) → Reading σ
  | .error fault => .error fault
  | .ok (.ok value, rest) => (close rest).map (Prod.mk value)
  | .ok (.error refusal, rest) =>
      match close rest with
      | .ok after => .error (.before (.refused refusal) after)
      | .error fault => .error (.before (.refused refusal) fault.rest)

def readObject (allowance : Nat) (text : List Char) : Reading σ :=
  settle Json.closeObject
    ((Json.foldMembers (record.readMember allowance) text.length true
        record.start text).map fun (outcome, rest) =>
      (outcome.bind record.finish, rest))

/-- Reads the items of a list as members and ends it. -/
def readList (allowance : Nat) (text : List Char) : Reading σ :=
  settle Json.closeList
    (record.readTuple allowance record.members 0 true record.blank text)

def readText (allowance : Nat) (text : List Char) : Reading σ :=
  match skipBlank text with
  | [] => .error (.upon .endOfValue [])
  | '\x7b' :: rest =>
      Reader.openContainer allowance ('\x7b' :: rest) record.readObject
  | '[' :: rest =>
      Reader.openContainer allowance ('[' :: rest) record.readList
  | start => Reader.refuseStart record.expected start

def takeMember (assembly : Assembly σ) :
    String × Json.Value → Except Refusal (Assembly σ)
  | (key, value) =>
      match record.demand assembly key with
      | .refuse refusal => .error refusal
      | .skip => .ok assembly
      | .member member =>
          (member.reader.value value).map fun update =>
            assembly.add key update

def takeTuple : List (Member σ) → Nat → σ → List Json.Value → Except Refusal σ
  | [], index, value, items =>
      if items.isEmpty then .ok value
      else
        .error (.wrongLength (index + items.length)
          "fewer elements in array")
  | member :: rest, index, value, [] =>
      if member.absence = .defaulted then takeTuple rest index value []
      else .error (record.tooShort index)
  | member :: rest, index, value, item :: items =>
      match member.reader.value item with
      | .error refusal => .error refusal
      | .ok update => takeTuple rest (index + 1) (update value) items

def readValue : Json.Value → Except Refusal σ
  | .object members =>
      (members.foldlM record.takeMember record.start).bind record.finish
  | .sequence items => record.takeTuple record.members 0 record.blank items
  | source => refuseType record.expected source.found

def nodeKey (place : Place) (key : Yaml.Node) :
    Except Yaml.Fault (String × Yaml.Mark) :=
  match ({ place with node := key } : Place).resolve.node with
  | .scalar head _ text => .ok (text, head.mark)
  | .sequence head _ =>
      place.refuse head.mark (.wrongType .sequence "field identifier")
  | .mapping head _ =>
      place.refuse head.mark (.wrongType .map "field identifier")
  | node => Place.blank node

/-- The step from a mapping to the value of one of its keys. -/
def keySegment : Yaml.Node → Yaml.Segment
  | .scalar _ _ text => .key text
  | _ => .unnamed

def readEntry (place : Place) (mark : Yaml.Mark) (assembly : Assembly σ) :
    Yaml.Node × Yaml.Node → Except Yaml.Fault (Assembly σ)
  | (keyNode, node) =>
      match nodeKey place keyNode with
      | .error fault => .error fault
      | .ok (key, keyMark) =>
          match record.demand assembly key with
          | .refuse (.unknownField name known) =>
              place.refuse keyMark (.unknownField name known)
          | .refuse refusal => place.refuse mark refusal
          | .skip =>
              match node.cut? with
              | some malformation => .error malformation.fault
              | none => .ok assembly
          | .member member =>
              (member.reader.node
                ⟨place.root, keySegment keyNode :: place.path, node⟩).map
                fun update => assembly.add key update

def readEntries (place : Place) (mark : Yaml.Mark)
    (entries : List (Yaml.Node × Yaml.Node)) : Except Yaml.Fault σ :=
  place.adopt mark
    ((entries.foldlM (record.readEntry place mark) record.start).bind
      fun assembly =>
        match record.finish assembly with
        | .ok value => .ok value
        | .error refusal => place.refuse mark refusal)

/-- Reads a record from a node. A document or an entry without content is a
record without members. -/
def readNode (place : Place) : Except Yaml.Fault σ :=
  let resolved := place.resolve
  match resolved.node with
  | .mapping head entries => record.readEntries resolved head.mark entries
  | .absent mark => record.readEntries resolved mark []
  | .scalar head style text =>
      if style = .plain ∧ text.isEmpty then
        record.readEntries resolved head.mark []
      else
        resolved.refuse head.mark
          ((head.scalar style text).refusal record.expected)
  | .sequence head _ =>
      resolved.refuse head.mark (.wrongType .sequence record.expected)
  | node => Place.blank node

def writeMembers (value : σ) : List (String × Json.Value) :=
  record.members.filterMap fun member =>
    (member.write value).map (Prod.mk member.key)

def codec : Codec σ where
  text := record.readText
  value := record.readValue
  node := record.readNode
  write value := .object (record.writeMembers value)

end Record

end Parley.Schema
