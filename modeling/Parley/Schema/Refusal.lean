import Parley.Numeric.Notation
import Parley.Text.Shown

/-!
Contract: why well-formed data is not a value of the type that was asked for.

Owns:
- `Found`, the kinds of data that a reader can meet;
- `Refusal`, the reasons to turn data down, and its text.

Does not own: where the data stood, which the format that was read knows.
-/

namespace Parley.Schema

open Parley.Numeric (Double)

/-- What a reader met. Integers beyond 64 bits are met in YAML only. -/
inductive Found where
  | unit
  | boolean (value : Bool)
  | integer (value : Int)
  | wideInteger (value : Int)
  | float (value : Double)
  | text (value : String)
  | sequence
  | map
deriving DecidableEq

inductive Refusal where
  | wrongType (found : Found) (expected : String)
  | wrongValue (found : Found) (expected : String)
  | wrongLength (length : Nat) (expected : String)
  | missingField (name : String)
  | unknownField (name : String) (known : List String)
  | duplicateField (name : String)
  | unknownVariant (name : String) (known : List String)
deriving DecidableEq

/-- The words of a format for what it calls the empty value and for its
floating-point numbers. -/
structure Wording where
  unit : String
  float : Double → String

/-- A name between the marks that set names apart in messages. -/
def ticked (name : String) : String :=
  "`" ++ name ++ "`"

/-- How a message lists the names that would have been accepted. -/
def alternatives : List String → String
  | [] => ""
  | [only] => ticked only
  | [first, second] => ticked first ++ " or " ++ ticked second
  | names => "one of " ++ ", ".intercalate (names.map ticked)

def Found.describe (wording : Wording) : Found → String
  | .unit => wording.unit
  | .boolean value => "boolean " ++ ticked (if value then "true" else "false")
  | .integer value => "integer " ++ ticked (toString value)
  | .wideInteger value =>
      "integer " ++ ticked (toString value) ++
        (if value < 0 then " as i128" else " as u128")
  | .float value => "floating point " ++ ticked (wording.float value)
  | .text value => "string " ++ Parley.Text.quoted value
  | .sequence => "sequence"
  | .map => "map"

def Refusal.message (wording : Wording) : Refusal → String
  | .wrongType found expected =>
      "invalid type: " ++ found.describe wording ++ ", expected " ++ expected
  | .wrongValue found expected =>
      "invalid value: " ++ found.describe wording ++ ", expected " ++ expected
  | .wrongLength length expected =>
      "invalid length " ++ toString length ++ ", expected " ++ expected
  | .missingField name => "missing field " ++ ticked name
  | .unknownField name known =>
      "unknown field " ++ ticked name ++ ", expected " ++ alternatives known
  | .duplicateField name => "duplicate field " ++ ticked name
  | .unknownVariant name known =>
      "unknown variant " ++ ticked name ++ ", expected " ++ alternatives known

end Parley.Schema
