import Parley.Config.Validation
import Parley.Schema.Document

/-!
Contract: settings from a file.

Placeholders are replaced in the text of the file before it is read, and once
more in the key and the base address that were read from it, which finds those
that escapes had hidden. Settings that are not admissible are not loaded.

Owns: `LoadFailure`, `load`.
-/

namespace Parley.Config

open Parley.Log (Entry)
open Parley.Text (Bytes)

inductive Format where
  | yaml
  | json
deriving DecidableEq, Repr

def Format.name : Format → String
  | yaml => "YAML"
  | json => "JSON"

inductive LoadFailure where
  | unreadable (path reason : String)
  | malformed (path format : String) (line column : Option Nat)
      (message : String)
  | rejected (rejection : Rejection)
  | missingVariable (name : String)
deriving DecidableEq

def placeText : Option Nat → Option Nat → String
  | some line, some column =>
      " at " ++ toString line ++ ":" ++ toString column
  | some line, none => " at line " ++ toString line
  | none, _ => ""

def LoadFailure.message : LoadFailure → String
  | .unreadable path reason =>
      "cannot read config '" ++ path ++ "': " ++ reason
  | .malformed path format line column message =>
      "malformed " ++ format ++ " in '" ++ path ++ "'" ++
        placeText line column ++ ": " ++ message
  | .rejected rejection => rejection.message
  | .missingVariable name =>
      "environment variable '" ++ name ++
        "' referenced by the config is not set"

/-- What a path names. -/
inductive Source where
  | absent
  | directory
  | file (content : Bytes)

def Source.read : Source → Except String String
  | .absent => .error "No such file or directory (os error 2)"
  | .directory => .error "Is a directory (os error 21)"
  | .file content =>
      match Text.Utf8.decode? content with
      | some text => .ok text
      | none => .error "stream did not contain valid UTF-8"

def Format.parse (path : String) (text : String) :
    Format → Except LoadFailure Settings
  | .yaml =>
      (Settings.codec.parseYaml text).mapError fun fault =>
        .malformed path Format.yaml.name (fault.mark.map (·.line + 1))
          (fault.mark.map (·.column + 1)) fault.message
  | .json =>
      (Settings.codec.parse text).mapError fun fault =>
        .malformed path Format.json.name (some fault.position.line)
          (some fault.position.column) fault.message

def expand (environment : Placeholder.Environment) (text : String) :
    Except LoadFailure String :=
  (Placeholder.interpolate environment text).mapError .missingVariable

/-- Replaces the placeholders in the key and the base address. -/
def Settings.expand (environment : Placeholder.Environment)
    (settings : Settings) : Except LoadFailure Settings := do
  let apiKey ← Config.expand environment settings.apiKey.value
  let baseUrl ← Config.expand environment settings.baseUrl
  pure { settings with apiKey := ⟨apiKey⟩, baseUrl }

/-- The settings in a file, with what is unusual about them. -/
def load (format : Format) (path : String) (source : Source)
    (environment : Placeholder.Environment) :
    Except LoadFailure (Settings × List Entry) := do
  let content ← source.read.mapError (.unreadable path)
  let text ← expand environment content
  let parsed ← format.parse path text
  let settings ← parsed.expand environment
  let warnings ← settings.review.mapError .rejected
  pure (settings, warnings)

end Parley.Config
