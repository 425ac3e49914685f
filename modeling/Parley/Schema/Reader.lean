import Parley.Json.Reader
import Parley.Yaml.Fault

/-!
Contract: reading a value of a type from the three places where it may stand.

A reader takes JSON text, a JSON value, or a node of a YAML document. The three
agree on what a value is; they differ in how they name what they refuse and
where it stood.

Owns: `Reader`, the readers of scalars, optional values, lists and
enumerations.
Does not own: records, see `Schema.Record`.
-/

namespace Parley.Schema

open Parley.Json (Reading skipBlank)

/-- A node of a YAML document in its surroundings: the root, where anchored
nodes are found, and the path to the node. -/
structure Place where
  root : Yaml.Node
  path : Yaml.Path
  node : Yaml.Node

/-- The fault of a refusal that has no place yet. The container around the value
adopts it. -/
def Place.refuseUnplaced {α : Type} (refusal : Refusal) :
    Except Yaml.Fault α :=
  .error ⟨.refused refusal, [], none⟩

def Place.refuse {α : Type} (place : Place) (mark : Yaml.Mark)
    (refusal : Refusal) : Except Yaml.Fault α :=
  .error ⟨.refused refusal, place.path, some mark⟩

/-- The fault of a document that has no content where a value is needed. -/
def Place.missing {α : Type} : Except Yaml.Fault α :=
  .error ⟨.endOfStream, [], none⟩

/-- Gives a refusal that has no mark yet the mark and the path of a container. -/
def Place.adopt {α : Type} (place : Place) (mark : Yaml.Mark) :
    Except Yaml.Fault α → Except Yaml.Fault α
  | .error ⟨.refused refusal, _, none⟩ => place.refuse mark refusal
  | result => result

/-- The place of the node that an alias repeats, or the place itself. -/
def Place.resolve (place : Place) : Place :=
  match place.node with
  | .alias mark anchor =>
      { place with
        node := (place.root.anchored? anchor).getD (.cut ⟨"unknown anchor", mark⟩) }
  | _ => place

/-- The fault of a node that has no content of its own: the text is cut short
there, or an alias repeats another alias. -/
def Place.blank {α : Type} (node : Yaml.Node) : Except Yaml.Fault α :=
  match node with
  | .cut malformation => .error malformation.fault
  | _ => Place.missing

/-- How a value of a type is read. The text reader is told how many containers
may still be opened. -/
structure Reader (α : Type) where
  text : Nat → List Char → Reading α
  value : Json.Value → Except Refusal α
  node : Place → Except Yaml.Fault α

namespace Reader

variable {α β : Type}

def map (transform : α → β) (reader : Reader α) : Reader β where
  text allowance text :=
    (reader.text allowance text).map fun (value, rest) =>
      (transform value, rest)
  value source := (reader.value source).map transform
  node place := (reader.node place).map transform

end Reader

/-- What a value that stands in one scalar looks like: the name of its kind in
messages, the kind that YAML reads it as, and which of the things that a reader
meets are accepted. -/
structure ScalarType (α : Type) where
  expected : String
  kind : Yaml.Kind
  accept : Found → Except Refusal α

namespace ScalarType

variable {α : Type}

/-- Reads a scalar, or refuses the container that stands in its place, from text
that starts with the value. -/
def readStart (type : ScalarType α) (text : List Char) : Reading α :=
  match Json.readScalar? text with
  | some (.error fault) => .error fault
  | some (.ok (value, rest)) =>
      match type.accept value.found with
      | .ok accepted => .ok (accepted, rest)
      | .error refusal => .error (.before (.refused refusal) rest)
  | none =>
      match text with
      | '[' :: _ =>
          .error (.before (.refused (.wrongType .sequence type.expected)) text)
      | '\x7b' :: _ =>
          .error (.before (.refused (.wrongType .map type.expected)) text)
      | _ => .error (.upon .expectedValue text)

def readText (type : ScalarType α) (text : List Char) : Reading α :=
  match skipBlank text with
  | [] => .error (.upon .endOfValue [])
  | char :: rest => type.readStart (char :: rest)

def readNode (type : ScalarType α) (place : Place) : Except Yaml.Fault α :=
  match place.resolve.node with
  | .scalar head style text =>
      let scalar := head.scalar style text
      match scalar.readAs? type.kind with
      | none => place.refuse head.mark (scalar.refusal type.expected)
      | some found =>
          match type.accept found with
          | .ok accepted => .ok accepted
          | .error refusal => place.refuse head.mark refusal
  | .sequence head _ =>
      place.refuse head.mark (.wrongType .sequence type.expected)
  | .mapping head _ =>
      place.refuse head.mark (.wrongType .map type.expected)
  | node => Place.blank node

def reader (type : ScalarType α) : Reader α where
  text _ text := type.readText text
  value source := type.accept source.found
  node place := type.readNode place

end ScalarType

def refuseType {α : Type} (expected : String) (found : Found) :
    Except Refusal α :=
  .error (.wrongType found expected)

def textType : ScalarType String where
  expected := "a string"
  kind := .text
  accept
    | .text value => .ok value
    | found => refuseType "a string" found

def booleanType : ScalarType Bool where
  expected := "a boolean"
  kind := .boolean
  accept
    | .boolean value => .ok value
    | found => refuseType "a boolean" found

def naturalType (expected : String) (limit : Nat) : ScalarType (Fin limit) where
  expected := expected
  kind := .unsigned
  accept
    | .integer value =>
        if fits : 0 ≤ value ∧ value < limit then
          .ok ⟨value.toNat, by omega⟩
        else .error (.wrongValue (.integer value) expected)
    | found => refuseType expected found

def u32Type : ScalarType UInt32 where
  expected := "u32"
  kind := .unsigned
  accept found := ((naturalType "u32" UInt32.size).accept found).map UInt32.ofFin

def u64Type : ScalarType UInt64 where
  expected := "u64"
  kind := .unsigned
  accept found := ((naturalType "u64" UInt64.size).accept found).map UInt64.ofFin

def i64Type : ScalarType Int64 where
  expected := "i64"
  kind := .signed
  accept
    | .integer value =>
        if Numeric.fitsSigned 64 value then .ok (Int64.ofInt value)
        else .error (.wrongValue (.integer value) "i64")
    | found => refuseType "i64" found

/-- The binary numbers of 32 bits; any number is rounded to the nearest. -/
def singleType : ScalarType Numeric.Single where
  expected := "f32"
  kind := .float
  accept
    | .integer value => .ok (.ofInt value)
    | .float value => .ok (value.convert Numeric.single)
    | found => refuseType "f32" found

namespace Reader

variable {α : Type}

/-- Whether a scalar of a YAML document stands for no value. -/
def isNoneScalar (scalar : Yaml.Scalar) : Except Refusal Bool :=
  if scalar.style ≠ .plain then .ok false
  else
    match scalar.tag with
    | none => .ok (scalar.text.isEmpty || Yaml.isNullWord scalar.text)
    | some tag =>
        if tag = Yaml.nullTag then
          if Yaml.isNullWord scalar.text then .ok true
          else .error (.wrongValue (.text scalar.text) "null")
        else .ok false

def optional (reader : Reader α) : Reader (Option α) where
  text allowance text :=
    match skipBlank text with
    | 'n' :: rest =>
        (Json.readWord ['u', 'l', 'l'] rest).map fun after => (none, after)
    | start =>
        (reader.text allowance start).map fun (value, rest) =>
          (some value, rest)
  value
    | .null => .ok none
    | source => (reader.value source).map some
  node place :=
    match place.resolve.node with
    | .scalar head style text =>
        match isNoneScalar (head.scalar style text) with
        | .error refusal => Place.refuseUnplaced refusal
        | .ok true => .ok none
        | .ok false => (reader.node place.resolve).map some
    | .absent _ => .ok none
    | _ => (reader.node place.resolve).map some

/-- Refuses what is not a container, from text that starts with the value. -/
def refuseStart (expected : String) (text : List Char) : Reading α :=
  ScalarType.readStart
    { expected := expected, kind := .text, accept := refuseType expected } text

def openContainer (allowance : Nat) (text : List Char)
    (inside : Nat → List Char → Reading α) : Reading α :=
  match allowance with
  | 0 => .error (.upon .nestedTooDeep text)
  | rest + 1 => inside rest text.tail

def readNodes (reader : Reader α) (place : Place) :
    Nat → List Yaml.Node → Except Yaml.Fault (List α)
  | _, [] => .ok []
  | index, node :: rest =>
      match reader.node ⟨place.root, .item index :: place.path, node⟩ with
      | .error fault => .error fault
      | .ok value =>
          (readNodes reader place (index + 1) rest).map (value :: ·)

def list (reader : Reader α) : Reader (List α) where
  text allowance text :=
    match skipBlank text with
    | [] => .error (.upon .endOfValue [])
    | '[' :: rest =>
        openContainer allowance ('[' :: rest) fun inner items =>
          Json.readItems (reader.text inner) text.length true items
    | start => refuseStart "a sequence" start
  value
    | .sequence items => items.mapM reader.value
    | source => refuseType "a sequence" source.found
  node place :=
    match place.resolve.node with
    | .sequence head items =>
        place.adopt head.mark (readNodes reader place.resolve 0 items)
    | .absent _ => .ok []
    | .scalar head style text =>
        if style = .plain ∧ text.isEmpty then .ok []
        else
          place.refuse head.mark
            ((head.scalar style text).refusal "a sequence")
    | .mapping head _ =>
        place.refuse head.mark (.wrongType .map "a sequence")
    | node => Place.blank node

def variant (variants : List (String × α)) (name : String) :
    Except Refusal α :=
  match variants.lookup name with
  | some value => .ok value
  | none => .error (.unknownVariant name (variants.map Prod.fst))

def variantType (variants : List (String × α)) : ScalarType α where
  expected := "variant identifier"
  kind := .text
  accept
    | .text name => variant variants name
    | found => refuseType "variant identifier" found

/-- The empty value, which may stand behind the name of a variant. -/
def unitType : ScalarType Unit where
  expected := "unit"
  kind := .text
  accept
    | .unit => .ok ()
    | found => refuseType "unit" found

def keyedVariant (variants : List (String × α)) (text : List Char) :
    Reading α :=
  match (variantType variants).readText text with
  | .error fault => .error fault
  | .ok (value, afterName) =>
      match Json.readColon afterName with
      | .error fault => .error fault
      | .ok start =>
          match unitType.readText start with
          | .error fault => .error fault
          | .ok ((), rest) =>
              match skipBlank rest with
              | '\x7d' :: after => .ok (value, after)
              | [] => .error (.before .endOfObject [])
              | other => .error (.before .expectedValue other)

/-- The name that a tag gives to a variant. The tag of a lone exclamation mark
gives that mark. -/
def tagName? (tag : Option Yaml.Tag) : Option String :=
  (tag.filter Yaml.Tag.isLocal).bind fun tag =>
    match tag.bytes with
    | [mark] => Text.Utf8.decode? [mark]
    | bytes => Text.Utf8.decode? bytes.tail

/-- Reads what stands behind a tag that names a variant, which must be empty or
the empty value. -/
def readUnit (place : Place) : Yaml.Node → Except Yaml.Fault Unit
  | .scalar head style text =>
      if style = .plain ∧ (text.isEmpty || Yaml.isNullWord text) then .ok ()
      else place.refuse head.mark (.wrongValue (.text text) "null")
  | .sequence head _ => place.refuse head.mark (.wrongType .sequence "unit")
  | .mapping head _ => place.refuse head.mark (.wrongType .map "unit")
  | node => Place.blank node

/-- Reads a variant that a tag names. -/
def taggedVariant (variants : List (String × α)) (place : Place)
    (name : String) : Except Yaml.Fault α :=
  match variant variants name with
  | .error refusal => Place.refuseUnplaced refusal
  | .ok value => (readUnit place place.node).map fun () => value

def variantNode (variants : List (String × α)) (place : Place) :
    Except Yaml.Fault α :=
  let container (head : Yaml.Head) (found : Found) : Except Yaml.Fault α :=
    match tagName? head.tag with
    | some name => taggedVariant variants place name
    | none =>
        place.refuse head.mark
          (.wrongType found "a YAML tag starting with '!'")
  match place.node with
  | .scalar head _ text =>
      match tagName? head.tag with
      | some name => taggedVariant variants place name
      | none =>
          match variant variants text with
          | .ok value => .ok value
          | .error refusal => place.refuse head.mark refusal
  | .sequence head _ => container head .sequence
  | .mapping head _ => container head .map
  | node => Place.blank node

def enumeration (variants : List (String × α)) : Reader α where
  text allowance text :=
    match skipBlank text with
    | [] => .error (.upon .endOfValue [])
    | '\x7b' :: rest =>
        openContainer allowance ('\x7b' :: rest) fun _ inside =>
          keyedVariant variants inside
    | '"' :: rest => (variantType variants).readText ('"' :: rest)
    | other => .error (.upon .expectedValue other)
  value
    | .text name => variant variants name
    | .object [(name, value)] =>
        (variant variants name).bind fun variant =>
          (unitType.accept value.found).map fun _ => variant
    | .object _ => .error (.wrongValue .map "map with a single key")
    | source => refuseType "string or map" source.found
  node place :=
    match place.node with
    | .alias mark _ =>
        place.adopt mark (variantNode variants place.resolve)
    | _ => variantNode variants place

end Reader

end Parley.Schema
