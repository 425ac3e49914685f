import Parley.Schema.Refusal

/-!
Contract: JSON values.

A number is an integer or a binary floating-point number of either width. Values
that were read hold no 32-bit numbers, and their integers fit in 64 bits.

Owns: `Value`, its members and the canonical order of members.
Does not own: JSON text, which is written in `Json.Writer` and read in
`Json.Reader`.
-/

namespace Parley.Json

open Parley.Numeric (Single Double)

inductive Number where
  | integer (value : Int)
  | single (value : Single)
  | double (value : Double)
deriving DecidableEq

/-- A JSON value. The members of an object keep their order. -/
inductive Value where
  | null
  | boolean (value : Bool)
  | number (value : Number)
  | text (value : String)
  | sequence (items : List Value)
  | object (members : List (String × Value))

instance : Inhabited Value := ⟨.null⟩

/-- Adds a member to a list of members sorted by key; a member with the same key
is replaced. -/
def insertMember (key : String) (value : Value) :
    List (String × Value) → List (String × Value)
  | [] => [(key, value)]
  | (other, held) :: rest =>
      if key < other then (key, value) :: (other, held) :: rest
      else if key = other then (key, value) :: rest
      else (other, held) :: insertMember key value rest

namespace Value

def member? (key : String) : Value → Option Value
  | .object members => (members.find? (·.1 == key)).map (·.2)
  | _ => none

def text? : Value → Option String
  | .text value => some value
  | _ => none

/-- What a reader of typed data meets in a value. -/
def found : Value → Schema.Found
  | .null => .unit
  | .boolean value => .boolean value
  | .number (.integer value) => .integer value
  | .number (.single value) => .float (value.convert Numeric.double)
  | .number (.double value) => .float value
  | .text value => .text value
  | .sequence _ => .sequence
  | .object _ => .map

mutual

/-- The value with the members of every object in the order of their keys. -/
def sorted : Value → Value
  | .sequence items => .sequence (sortedItems items)
  | .object members => .object (sortedMembers members)
  | value => value

def sortedItems : List Value → List Value
  | [] => []
  | item :: rest => item.sorted :: sortedItems rest

def sortedMembers : List (String × Value) → List (String × Value)
  | [] => []
  | (key, value) :: rest => insertMember key value.sorted (sortedMembers rest)

end

end Value

end Parley.Json
