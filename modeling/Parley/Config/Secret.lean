import Parley.Schema.Record

/-!
Contract: text that must not be seen.

Owns: `Secret` and its renderings, of which none shows the secret itself.
-/

namespace Parley.Config

open Parley.Schema (Codec)

/-- Text that is only shown redacted. -/
structure Secret where
  value : String
deriving DecidableEq

namespace Secret

/-- What stands for a secret in every rendering of a value that holds one. -/
def redacted : String := "[REDACTED]"

def splitDot (text : List Char) : Option (List Char × List Char) :=
  match text.dropWhile (· ≠ '.') with
  | [] => none
  | _ :: after => some (text.takeWhile (· ≠ '.'), after)

/-- Whether a secret has the form of an issued key: an identifier, a full stop
and the secret proper, neither of them empty. -/
def hasKeyForm (secret : Secret) : Bool :=
  match splitDot secret.value.toList with
  | some (identifier, proper) => !identifier.isEmpty && !proper.isEmpty
  | none => false

/-- The rendering that tells keys apart without giving them away: of a long
issued key the identifier, of another long ASCII text its two characters at
either end. -/
def partly (secret : Secret) : String :=
  let text := secret.value.toList
  if text.isEmpty then "[EMPTY]"
  else if text.any (0x7F < ·.toNat) || text.length ≤ 8 then redacted
  else
    match splitDot text with
    | some (identifier, proper) =>
        if identifier.isEmpty || proper.isEmpty then redacted
        else String.ofList identifier ++ "." ++ redacted
    | none =>
        String.ofList (text.take 2) ++ "..." ++
          String.ofList (text.drop (text.length - 2))

/-- The codec of secrets, which stores them in full. -/
def codec : Codec Secret where
  toReader := Codec.plainText.toReader.map Secret.mk
  write secret := .text secret.value

end Secret

end Parley.Config
