import Mathlib.Control.Monad.Basic
import Parley.Proofs.Config.Load
import Parley.Proofs.Schema.Record

/-!
Contract: files that spell the texts of settings and nothing else.

Owns: `Settings.ofTexts`, `textsObject`, their cases for a service at this
machine, that such files are read and loaded, and `forwarding`.
-/

namespace Parley.Config

open Parley.Json (Value)
open Parley.Schema (Codec Record)

/-- The settings with these texts and everything else as usual. -/
def Settings.ofTexts (apiKey baseUrl model : String) : Settings :=
  { Settings.ofKey ⟨apiKey⟩ with
    baseUrl
    defaults := { Defaults.standard with model } }

/-- The object that spells these texts. -/
def textsObject (apiKey baseUrl model : String) : Value :=
  .object [("version", .text supportedVersion), ("api_key", .text apiKey),
    ("base_url", .text baseUrl),
    ("defaults", .object [("model", .text model)])]

theorem reads_secret (text : String) :
    Secret.codec.toReader.Reads 0 (.text text) ⟨text⟩ :=
  (Codec.plainText_roundTrips text).map Secret.mk

private theorem reads_model (model : String) :
    Defaults.codec.toReader.Reads 1 (.object [("model", .text model)])
      { Defaults.standard with model } :=
  Record.reads_object (.plain rfl rfl
    (Codec.plainText_roundTrips model) .nil) rfl

/-- The object that spells texts is read as the settings with these. -/
theorem parse_textsObject (apiKey baseUrl model : String) :
    Settings.codec.parse (textsObject apiKey baseUrl model).toText =
      .ok (.ofTexts apiKey baseUrl model) := by
  have text (held : String) : Codec.plainText.RoundTrips 1 held :=
    (Codec.plainText_roundTrips held).mono (Nat.zero_le 1)
  have secret : Secret.codec.toReader.Reads 1 (.text apiKey) ⟨apiKey⟩ :=
    (reads_secret apiKey).mono (Nat.zero_le 1)
  have reads : Settings.codec.toReader.Reads 2
      (textsObject apiKey baseUrl model) (.ofTexts apiKey baseUrl model) :=
    Record.reads_object (.plain rfl rfl (text supportedVersion)
      (.plain rfl rfl secret (.plain rfl rfl (text baseUrl)
        (.plain rfl rfl (reads_model model) .nil)))) rfl
  exact Codec.parse_toText reads (by decide)

/-- Settings of a service at this machine. -/
def localSettings (apiKey model : String) : Settings :=
  .ofTexts apiKey "http://[::1]" model

/-- The text of a file with settings of a service at this machine. -/
def localText (apiKey model : String) : String :=
  (textsObject apiKey "http://[::1]" model).toText

theorem load_localText {environment : Placeholder.Environment}
    {apiKey model innerKey innerModel : String} {settings : Settings}
    (isText : expand environment (localText apiKey model) =
      .ok (localText innerKey innerModel))
    (isExpanded : (localSettings innerKey innerModel).expand environment =
      .ok settings)
    (valid : settings.validate = .ok ()) :
    load .json "c.json" (.file (Text.Utf8.encode (localText apiKey model)))
      environment = .ok (settings, settings.warnings) :=
  load_json isText (parse_textsObject _ _ _) isExpanded valid

/-- An environment with a variable whose value refers to another one. -/
def forwarding : Placeholder.Environment := fun name =>
  if name = "OUTER" then some "$\x7bINNER\x7d"
  else if name = "INNER" then some "a.b"
  else none

/-- A key that refers to a variable is loaded with what the variable's value
refers to. -/
theorem load_forwarding_key :
    load .json "c.json"
        (.file (Text.Utf8.encode (localText "$\x7bOUTER\x7d" "glm")))
        forwarding =
      .ok (localSettings "a.b" "glm",
        (localSettings "a.b" "glm").warnings) := by
  have isText : expand forwarding (localText "$\x7bOUTER\x7d" "glm") =
      .ok (localText "$\x7bINNER\x7d" "glm") := by
    decide +kernel
  have isExpanded : (localSettings "$\x7bINNER\x7d" "glm").expand forwarding =
      .ok (localSettings "a.b" "glm") := by
    decide +kernel
  exact load_localText isText isExpanded (by decide +kernel)

end Parley.Config
