import Parley.Numeric.Decimal
import Parley.Numeric.Width
import Parley.Schema.Refusal
import Parley.Text.Numeral
import Parley.Yaml.Node

/-!
Contract: what the text of a YAML scalar means.

A plain scalar may spell the empty value, a truth value, an integer or a
floating-point number; any other scalar is text, unless its tag says otherwise.

Owns: the spellings of those values, and `Scalar.readAs`, the reading of a scalar
as a value of a wanted kind.
-/

namespace Parley.Yaml

open Parley.Numeric (Double digitValue fitsSigned fitsUnsigned takeSign)
open Parley.Schema (Found Refusal)

def isNullWord (text : String) : Bool :=
  ["null", "Null", "NULL", "~"].contains text

def boolean? (text : String) : Option Bool :=
  if ["true", "True", "TRUE"].contains text then some true
  else if ["false", "False", "FALSE"].contains text then some false
  else none

def naturalIn? (base : Nat) : List Char → Option Nat
  | [] => none
  | digits => Text.numberIn? base digits

/-- Whether a text is a sign that is optional and digits of which the first of
several is zero. Such a text spells no integer. -/
def hasLeadingZero (text : List Char) : Bool :=
  match (takeSign text).2 with
  | '0' :: next :: rest => (next :: rest).all Char.isDigit
  | _ => false

/-- The magnitude that a text without sign spells: hexadecimal, octal, binary or
decimal. -/
def magnitude? : List Char → Option Nat
  | '0' :: 'x' :: digits => naturalIn? 16 digits
  | '0' :: 'o' :: digits => naturalIn? 8 digits
  | '0' :: 'b' :: digits => naturalIn? 2 digits
  | digits => naturalIn? 10 digits

def integer? (text : List Char) : Option Int :=
  if hasLeadingZero text then none
  else
    (magnitude? (takeSign text).2).map fun magnitude =>
      if (takeSign text).1 then -(magnitude : Int) else magnitude

/-- The finite number or infinity or `nan` that a text spells. -/
def float? (text : List Char) : Option Double :=
  if [".nan", ".NaN", ".NAN"].contains (String.ofList text) then some .nan
  else
    let (negative, unsigned) := takeSign text
    if [".inf", ".Inf", ".INF"].contains (String.ofList unsigned) then
      some (.infinity negative)
    else
      (Numeric.Decimal.ofText? unsigned).bind fun decimal =>
        let value : Double := .ofDecimal negative decimal
        if value.isFinite then some value else none

/-- An integer as it is met: within 64 bits, or within 128. -/
def integerFound? (value : Int) : Option Found :=
  if fitsSigned 64 value || fitsUnsigned 64 value then some (.integer value)
  else if fitsSigned 128 value || fitsUnsigned 128 value then
    some (.wideInteger value)
  else none

/-- The integer of at most 128 bits that a text spells, as it is met. -/
def integerMet? (text : List Char) : Option Found :=
  (integer? text).bind integerFound?

/-- What a plain scalar without a tag is met as. -/
def plainFound (text : String) : Found :=
  if text.isEmpty || isNullWord text then .unit
  else
    match boolean? text with
    | some value => .boolean value
    | none =>
        match integerMet? text.toList with
        | some found => found
        | none =>
            if hasLeadingZero text.toList then .text text
            else
              match float? text.toList with
              | some value => .float value
              | none => .text text

/-- The tags of the four kinds of scalars that are no text. -/
def booleanTag : Tag := .ofText "tag:yaml.org,2002:bool"
def integerTag : Tag := .ofText "tag:yaml.org,2002:int"
def floatTag : Tag := .ofText "tag:yaml.org,2002:float"
def nullTag : Tag := .ofText "tag:yaml.org,2002:null"

namespace Scalar

/-- What a scalar is met as when a reader wanted something else, or the refusal
of a text that its own tag does not allow. -/
def met (scalar : Scalar) : Except Refusal Found :=
  let unfit (expected : String) : Except Refusal Found :=
    .error (.wrongValue (.text scalar.text) expected)
  match scalar.tag with
  | none =>
      .ok (if scalar.style = .plain then plainFound scalar.text
        else .text scalar.text)
  | some tag =>
      if tag = booleanTag then
        match boolean? scalar.text with
        | some value => .ok (.boolean value)
        | none => unfit "a boolean"
      else if tag = integerTag then
        match integerMet? scalar.text.toList with
        | some found => .ok found
        | none => unfit "an integer"
      else if tag = floatTag then
        match float? scalar.text.toList with
        | some value => .ok (.float value)
        | none => unfit "a float"
      else if tag = nullTag then
        if isNullWord scalar.text then .ok .unit else unfit "null"
      else if tag.isLocal && scalar.style == .plain then
        .ok (plainFound scalar.text)
      else .ok (.text scalar.text)

def refusal (scalar : Scalar) (expected : String) : Refusal :=
  match scalar.met with
  | .ok found => .wrongType found expected
  | .error refusal => refusal

/-- Whether the text of a scalar may spell something other than text: it is
plain, or a literal block whose tag asks for it. -/
def isOpen (scalar : Scalar) (tag : Tag) : Bool :=
  scalar.style == .plain ||
    (scalar.style == .literal && scalar.tag == some tag)

end Scalar

/-- The kinds of values that a reader can want from a scalar. -/
inductive Kind where
  | text
  | boolean
  | unsigned
  | signed
  | float
deriving DecidableEq, Repr

namespace Scalar

def readAs? (scalar : Scalar) : Kind → Option Found
  | .text => some (.text scalar.text)
  | .boolean =>
      if scalar.isOpen booleanTag then (boolean? scalar.text).map .boolean
      else none
  | .unsigned =>
      if scalar.isOpen integerTag && !scalar.text.startsWith "-" then
        ((integer? scalar.text.toList).filter (fitsUnsigned 64)).map .integer
      else none
  | .signed =>
      if scalar.isOpen integerTag then
        ((integer? scalar.text.toList).filter (fitsSigned 64)).map .integer
      else none
  | .float =>
      if scalar.isOpen floatTag then (float? scalar.text.toList).map .float
      else none

end Scalar

end Parley.Yaml
