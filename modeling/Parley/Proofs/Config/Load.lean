import Parley.Config.Load
import Parley.Proofs.Config.Placeholder
import Parley.Proofs.Text.Utf8

/-!
Contract: what is known of settings that were loaded.

Settings are admissible exactly if each of their fields is, whatever the order
of the checks. A file is loaded exactly if its text is read from what its
placeholders were replaced by, and the settings read from it are admissible once
those in the key and the base address are replaced.

Owns: `Settings.Admissible`, and when `Settings.validate` and `load` succeed.
-/

namespace Parley.Config

open Parley.Log (Entry)
open Placeholder (HoldsPlaceholder Replaced)

/-! ## Checks -/

theorem require_eq_ok_iff {condition : Bool} {field : String}
    {problem : Problem} :
    require condition field problem = .ok () ↔ condition = true := by
  cases condition <;> constructor <;> intro same <;> cases same <;> rfl

theorem rejectIf_eq_ok_iff {field : String} {problem : Option Problem} :
    rejectIf field problem = .ok () ↔ problem = none := by
  cases problem <;> constructor <;> intro same <;> cases same <;> rfl

/-- A check and then another one pass exactly if both do. -/
theorem checks_eq_ok_iff {first second : Except Rejection Unit} :
    (first >>= fun _ => second) = .ok () ↔
      first = .ok () ∧ second = .ok () := by
  rw [Outcome.bind_eq_ok_iff]
  exact ⟨fun ⟨_, isFirst, isSecond⟩ => ⟨isFirst, isSecond⟩,
    fun ⟨isFirst, isSecond⟩ => ⟨(), isFirst, isSecond⟩⟩

theorem not_isEmpty_iff {text : String} :
    (!text.isEmpty) = true ↔ text ≠ "" := by
  rw [Bool.not_eq_true', Bool.eq_false_iff, Ne, String.isEmpty_iff]

theorem rejectPlaceholder_eq_ok_iff {field text : String} :
    Settings.rejectPlaceholder field text = .ok () ↔
      ¬ HoldsPlaceholder text.toList := by
  rw [Settings.rejectPlaceholder, rejectIf_eq_ok_iff, Option.map_eq_none_iff,
    List.head?_eq_none_iff, Placeholder.variableNames_eq_nil_iff]

/-- The addresses that requests may be sent below. -/
def IsBaseUrl (text : String) : Prop :=
  ∃ address, Url.Address.parse text = .ok address ∧
    (address.scheme = "http" ∨ address.scheme = "https")

theorem urlProblem?_eq_none_iff {text : String} :
    urlProblem? text = none ↔ IsBaseUrl text := by
  unfold urlProblem? IsBaseUrl
  cases Url.Address.parse text with
  | error fault =>
      constructor
      · intro same
        cases same
      · rintro ⟨address, same, _⟩
        cases same
  | ok address =>
      have isScheme : (address.scheme == "http" ||
          address.scheme == "https") = true ↔
          address.scheme = "http" ∨ address.scheme = "https" := by
        rw [Bool.or_eq_true, beq_iff_eq, beq_iff_eq]
      dsimp only
      split
      · rename_i right
        exact ⟨fun _ => ⟨address, rfl, isScheme.mp right⟩, fun _ => rfl⟩
      · rename_i wrong
        constructor
        · intro same
          cases same
        · rintro ⟨_, same, right⟩
          cases same
          exact absurd (isScheme.mpr right) wrong

/-- The settings that a client may work with. -/
structure Settings.Admissible (settings : Settings) : Prop where
  keyExpanded : ¬ HoldsPlaceholder settings.apiKey.value.toList
  baseUrlExpanded : ¬ HoldsPlaceholder settings.baseUrl.toList
  version : settings.version = supportedVersion
  apiKey : settings.apiKey.value ≠ ""
  baseUrl : IsBaseUrl settings.baseUrl
  model : settings.defaults.model ≠ ""
  temperature : isAdmissible settings.defaults.temperature = true
  topP : isAdmissible settings.defaults.topP = true
  connectTimeout : 0 < settings.connection.connectTimeoutMs
  requestTimeout : 0 < settings.connection.requestTimeoutMs

/-- The version of admissible settings holds no placeholder. -/
theorem Settings.Admissible.versionExpanded {settings : Settings}
    (admissible : settings.Admissible) :
    ¬ HoldsPlaceholder settings.version.toList := by
  rw [admissible.version]
  exact mt HoldsPlaceholder.dollar_mem (by decide)

theorem Defaults.validate_eq_ok_iff {path : String} {defaults : Defaults} :
    defaults.validate path = .ok () ↔
      defaults.model ≠ "" ∧ isAdmissible defaults.temperature = true ∧
        isAdmissible defaults.topP = true := by
  unfold Defaults.validate
  rw [checks_eq_ok_iff, checks_eq_ok_iff, require_eq_ok_iff,
    require_eq_ok_iff, require_eq_ok_iff, not_isEmpty_iff]

theorem Connection.validate_eq_ok_iff {path : String}
    {connection : Connection} :
    connection.validate path = .ok () ↔
      0 < connection.connectTimeoutMs ∧ 0 < connection.requestTimeoutMs := by
  unfold Connection.validate
  rw [checks_eq_ok_iff, require_eq_ok_iff, require_eq_ok_iff,
    decide_eq_true_iff, decide_eq_true_iff]

theorem Settings.validateFields_eq_ok_iff {settings : Settings} :
    settings.validateFields = .ok () ↔
      settings.version = supportedVersion ∧ settings.apiKey.value ≠ "" ∧
        IsBaseUrl settings.baseUrl ∧
        settings.defaults.validate "defaults" = .ok () ∧
        settings.connection.validate "connection" = .ok () := by
  unfold Settings.validateFields
  rw [checks_eq_ok_iff, checks_eq_ok_iff, checks_eq_ok_iff, checks_eq_ok_iff,
    checks_eq_ok_iff, require_eq_ok_iff, require_eq_ok_iff, require_eq_ok_iff,
    rejectIf_eq_ok_iff, not_isEmpty_iff, not_isEmpty_iff,
    beq_iff_eq, urlProblem?_eq_none_iff]
  constructor
  · rintro ⟨_, rest⟩
    exact rest
  · rintro ⟨isVersion, rest⟩
    exact ⟨by rw [isVersion]; decide, isVersion, rest⟩

/-- The checks pass exactly if every field is as it has to be. -/
theorem Settings.validate_eq_ok_iff {settings : Settings} :
    settings.validate = .ok () ↔ settings.Admissible := by
  unfold Settings.validate
  rw [checks_eq_ok_iff, checks_eq_ok_iff, rejectPlaceholder_eq_ok_iff,
    rejectPlaceholder_eq_ok_iff, Settings.validateFields_eq_ok_iff,
    Defaults.validate_eq_ok_iff, Connection.validate_eq_ok_iff]
  constructor
  · rintro ⟨keyExpanded, baseUrlExpanded, version, apiKey, baseUrl,
      ⟨model, temperature, topP⟩, connectTimeout, requestTimeout⟩
    exact ⟨keyExpanded, baseUrlExpanded, version, apiKey, baseUrl, model,
      temperature, topP, connectTimeout, requestTimeout⟩
  · intro admissible
    exact ⟨admissible.keyExpanded, admissible.baseUrlExpanded,
      admissible.version, admissible.apiKey, admissible.baseUrl,
      ⟨admissible.model, admissible.temperature, admissible.topP⟩,
      admissible.connectTimeout, admissible.requestTimeout⟩

/-! ## Loading -/

theorem expand_eq_ok_iff {environment : Placeholder.Environment}
    {text result : String} :
    expand environment text = .ok result ↔
      Replaced environment text.toList result.toList := by
  rw [expand, Outcome.mapError_eq_ok_iff, Placeholder.interpolate_eq_ok_iff]

/-- The key and the base address are expanded, and nothing else changes. -/
theorem Settings.expand_eq_ok_iff {environment : Placeholder.Environment}
    {parsed settings : Settings} :
    parsed.expand environment = .ok settings ↔
      Replaced environment parsed.apiKey.value.toList
          settings.apiKey.value.toList ∧
        Replaced environment parsed.baseUrl.toList settings.baseUrl.toList ∧
        settings = { parsed with
          apiKey := settings.apiKey
          baseUrl := settings.baseUrl } := by
  unfold Settings.expand
  simp only [Outcome.bind_eq_ok_iff, Config.expand_eq_ok_iff]
  constructor
  · rintro ⟨key, isKey, baseUrl, isBaseUrl, same⟩
    cases same
    exact ⟨isKey, isBaseUrl, rfl⟩
  · rintro ⟨isKey, isBaseUrl, same⟩
    refine ⟨settings.apiKey.value, isKey, settings.baseUrl, isBaseUrl, ?_⟩
    rw [same]
    rfl

/-- What a load that succeeds goes through: the text of the file, the text with
its placeholders replaced, and the settings that this spells. -/
theorem load_eq_ok_iff {format : Format} {path : String} {source : Source}
    {environment : Placeholder.Environment} {settings : Settings}
    {warnings : List Entry} :
    load format path source environment = .ok (settings, warnings) ↔
      ∃ content text parsed, source.read = .ok content ∧
        Replaced environment content.toList text.toList ∧
        format.parse path text = .ok parsed ∧
        parsed.expand environment = .ok settings ∧
        settings.Admissible ∧ warnings = settings.warnings := by
  unfold load
  simp only [Outcome.bind_eq_ok_iff, Outcome.mapError_eq_ok_iff,
    Config.expand_eq_ok_iff, Settings.review, Outcome.map_eq_ok_iff,
    Settings.validate_eq_ok_iff.symm]
  constructor
  · rintro ⟨content, isRead, text, isText, parsed, isParsed, expanded,
      isExpanded, _, ⟨_, isValid, rfl⟩, same⟩
    cases same
    exact ⟨content, text, parsed, isRead, isText, isParsed, isExpanded,
      isValid, rfl⟩
  · rintro ⟨content, text, parsed, isRead, isText, isParsed, isExpanded,
      isValid, rfl⟩
    exact ⟨content, isRead, text, isText, parsed, isParsed, settings,
      isExpanded, _, ⟨(), isValid, rfl⟩, rfl⟩

theorem read_encoded (content : String) :
    Source.read (.file (Text.Utf8.encode content)) = .ok content := by
  rw [Source.read, Text.Utf8.decode?_encode]

theorem Format.parse_json_eq_ok_iff {path text : String} {parsed : Settings} :
    Format.json.parse path text = .ok parsed ↔
      Settings.codec.parse text = .ok parsed := by
  rw [Format.parse, Outcome.mapError_eq_ok_iff]

/-- A file that holds a JSON text is loaded in three steps and a check. -/
theorem load_json {path content text : String}
    {environment : Placeholder.Environment} {parsed settings : Settings}
    (isText : expand environment content = .ok text)
    (isParsed : Settings.codec.parse text = .ok parsed)
    (isExpanded : parsed.expand environment = .ok settings)
    (valid : settings.validate = .ok ()) :
    load .json path (.file (Text.Utf8.encode content)) environment =
      .ok (settings, settings.warnings) :=
  load_eq_ok_iff.mpr ⟨content, text, parsed, read_encoded content,
    expand_eq_ok_iff.mp isText, Format.parse_json_eq_ok_iff.mpr isParsed,
    isExpanded, Settings.validate_eq_ok_iff.mp valid, rfl⟩

/-- A file that holds no JSON text of settings is malformed. -/
theorem load_malformed {path content text : String}
    {environment : Placeholder.Environment} {fault : Json.LocatedFault}
    (isText : expand environment content = .ok text)
    (isRefused : Settings.codec.parse text = .error fault) :
    load .json path (.file (Text.Utf8.encode content)) environment =
      .error (.malformed path Format.json.name (some fault.position.line)
        (some fault.position.column) fault.message) := by
  have isMalformed : Format.json.parse path text =
      .error (.malformed path Format.json.name (some fault.position.line)
        (some fault.position.column) fault.message) := by
    rw [Format.parse, isRefused]
    rfl
  rw [load, read_encoded]
  show (expand environment content >>= fun text =>
    Format.json.parse path text >>= _) = _
  rw [isText]
  show (Format.json.parse path text >>= _) = _
  rw [isMalformed]
  rfl

end Parley.Config
