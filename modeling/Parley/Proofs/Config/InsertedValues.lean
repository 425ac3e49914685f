import Parley.Proofs.Config.ExpandedRecord
import Parley.Proofs.Config.Texts

/-!
Contract: what the values of variables become in settings that were loaded.

Placeholders are replaced before a file is read, so a value that ends a literal
or starts an escape is read as JSON. All other values stand in the texts of the
settings as they are, and change nothing else.

Owns: `SettingsFollow`, and where values are inserted.
-/

namespace Parley.Config

open Parley.Json (StartsWithout Value)
open Parley.Log (Entry)
open Parley.Schema (Codec Member Reader Record)
open Placeholder (Environment HoldsPlaceholder Inserted Replaced)

variable {environment : Environment} {file : List Char}

/-! ## Settings of both texts -/

theorem plain_follows {α σ : Type} {related : σ → σ → Prop}
    {relatedPart : α → α → Prop} {key : String} {absence : Schema.Absence}
    {codec : Codec α} {get : σ → α} {set : α → σ → σ}
    (follows : Follows environment file codec.toReader relatedPart)
    (keeps : ∀ part other value last, relatedPart part other →
      related value last → related (set part value) (set other last)) :
    Follows environment file (Member.plain key absence codec get set).reader
      (Preserves related) :=
  follows.map fun part other isPart value last =>
    keeps part other value last isPart

/-- A member whose values are equal in both texts changes a record equally. -/
theorem plain_follows_eq {α σ : Type} {key : String} {absence : Schema.Absence}
    {codec : Codec α} {get : σ → α} {set : α → σ → σ}
    (follows : Follows environment file codec.toReader (· = ·)) :
    Follows environment file (Member.plain key absence codec get set).reader
      (Preserves (· = ·)) := by
  refine plain_follows follows ?_
  rintro part _ value _ rfl rfl
  rfl

private theorem TextFollows.of_resolved {text : String}
    (resolved : ¬ HoldsPlaceholder text.toList) :
    TextFollows environment file text text :=
  (Placeholder.replaced_of_not_holds resolved).inserted

theorem TextFollows.of_literal {text : String} (noDollar : '$' ∉ text.toList) :
    TextFollows environment file text text :=
  .of_resolved (mt HoldsPlaceholder.dollar_mem noDollar)

/-- The relation between parameters that were read from both texts. -/
structure DefaultsFollow (environment : Environment) (file : List Char)
    (defaults other : Defaults) : Prop where
  model : TextFollows environment file defaults.model other.model
  temperature : defaults.temperature = other.temperature
  topP : defaults.topP = other.topP

/-- The relation between settings that were read from both texts. -/
structure SettingsFollow (environment : Environment) (file : List Char)
    (settings other : Settings) : Prop where
  version : TextFollows environment file settings.version other.version
  apiKey : TextFollows environment file settings.apiKey.value other.apiKey.value
  baseUrl : TextFollows environment file settings.baseUrl other.baseUrl
  retry : settings.retry = other.retry
  defaults : DefaultsFollow environment file settings.defaults other.defaults
  connection : settings.connection = other.connection

private theorem policy_follows (plainValues : PlainValues environment file) :
    Follows environment file Retry.Policy.codec.toReader (· = ·) := by
  refine RecordFollows.reader ⟨rfl, rfl, by decide, ?_⟩ plainValues
  exact List.forall_mem_cons.mpr ⟨plain_follows_eq (u32_follows plainValues),
    List.forall_mem_singleton.mpr (plain_follows_eq (u64_follows plainValues))⟩

private theorem connection_follows
    (plainValues : PlainValues environment file) :
    Follows environment file Connection.codec.toReader (· = ·) := by
  refine RecordFollows.reader ⟨rfl, rfl, by decide, ?_⟩ plainValues
  exact List.forall_mem_cons.mpr ⟨plain_follows_eq (u64_follows plainValues),
    List.forall_mem_singleton.mpr (plain_follows_eq (u64_follows plainValues))⟩

theorem standard_follows :
    DefaultsFollow environment file Defaults.standard Defaults.standard :=
  ⟨.of_literal (by decide), rfl, rfl⟩

private theorem defaults_follow (plainValues : PlainValues environment file) :
    Follows environment file Defaults.codec.toReader
      (DefaultsFollow environment file) := by
  have sampling := (single_follows plainValues).optional
  refine RecordFollows.reader ⟨rfl, standard_follows, by decide, ?_⟩ plainValues
  refine List.forall_mem_cons.mpr
    ⟨plain_follows (plainText_follows plainValues) ?_,
      List.forall_mem_cons.mpr ⟨plain_follows sampling ?_,
        List.forall_mem_singleton.mpr (plain_follows sampling ?_)⟩⟩
  · intro _ _ _ _ isModel follow
    exact { follow with model := isModel }
  · intro _ _ _ _ same follow
    exact { follow with temperature := same }
  · intro _ _ _ _ same follow
    exact { follow with topP := same }

private theorem settings_follow (plainValues : PlainValues environment file) :
    Follows environment file Settings.codec.toReader
      (SettingsFollow environment file) := by
  have text := plainText_follows plainValues
  have secret : Follows environment file Secret.codec.toReader
      fun secret other => TextFollows environment file secret.value other.value :=
    text.map fun _ _ follows => follows
  have blank : SettingsFollow environment file (.ofKey ⟨""⟩) (.ofKey ⟨""⟩) :=
    ⟨.of_literal (by decide), .of_literal (by decide), .of_literal (by decide), rfl,
      standard_follows, rfl⟩
  refine RecordFollows.reader ⟨rfl, blank, by decide, ?_⟩ plainValues
  refine List.forall_mem_cons.mpr ⟨plain_follows text ?_,
    List.forall_mem_cons.mpr ⟨plain_follows secret ?_,
    List.forall_mem_cons.mpr ⟨plain_follows text ?_,
    List.forall_mem_cons.mpr ⟨plain_follows (policy_follows plainValues) ?_,
    List.forall_mem_cons.mpr ⟨plain_follows (defaults_follow plainValues) ?_,
    List.forall_mem_singleton.mpr
      (plain_follows (connection_follows plainValues) ?_)⟩⟩⟩⟩⟩
  · intro _ _ _ _ isVersion follow
    exact { follow with version := isVersion }
  · intro _ _ _ _ isKey follow
    exact { follow with apiKey := isKey }
  · intro _ _ _ _ isBaseUrl follow
    exact { follow with baseUrl := isBaseUrl }
  · intro _ _ _ _ same follow
    exact { follow with retry := same }
  · intro _ _ _ _ isDefaults follow
    exact { follow with defaults := isDefaults }
  · intro _ _ _ _ same follow
    exact { follow with connection := same }

/-- Settings that both texts spell are related. -/
theorem parse_follows {content text : String} {written parsed : Settings}
    (plainValues : PlainValues environment content.toList)
    (replaced : Replaced environment content.toList text.toList)
    (isWritten : Settings.codec.parse content = .ok written)
    (isParsed : Settings.codec.parse text = .ok parsed) :
    SettingsFollow environment content.toList written parsed := by
  obtain ⟨rest, isRead, blanks⟩ := Json.closeText_eq_ok_iff.mp
    (Outcome.mapError_eq_ok_iff.mp isWritten)
  obtain ⟨after, isReadToo, _⟩ := Json.closeText_eq_ok_iff.mp
    (Outcome.mapError_eq_ok_iff.mp isParsed)
  have noDollar : StartsWithout ['$'] rest := by
    cases rest with
    | nil => trivial
    | cons char rest =>
        intro isDollar
        have isBlank := blanks char List.mem_cons_self
        rw [List.mem_singleton.mp isDollar] at isBlank
        exact absurd isBlank (by decide)
  exact ((settings_follow plainValues).agrees ⟨replaced, List.suffix_refl _⟩
    noDollar isRead isReadToo).1

/-! ## Loading -/

/-- The relation between a text and what two passes of expansion make of it. -/
def ReplacedTwice (environment : Environment) (text result : List Char) : Prop :=
  ∃ once, Replaced environment text once ∧ Replaced environment once result

/-- If no value that a file refers to holds a quote or a reverse solidus, the
settings that are loaded are those that the file spells with its placeholders
left, but for their texts: the placeholders of the version are replaced, those of
the key and the base address are replaced twice over, and those of the model are
replaced, or left if the file holds an escape. -/
theorem load_inserts_plain_values {path content : String} {source : Source}
    {written settings : Settings} {warnings : List Entry}
    (isRead : source.read = .ok content)
    (isWritten : Settings.codec.parse content = .ok written)
    (plainValues : PlainValues environment content.toList)
    (loaded : load .json path source environment = .ok (settings, warnings)) :
    settings.retry = written.retry ∧
      settings.connection = written.connection ∧
      settings.defaults.temperature = written.defaults.temperature ∧
      settings.defaults.topP = written.defaults.topP ∧
      Replaced environment written.version.toList settings.version.toList ∧
      ReplacedTwice environment written.apiKey.value.toList
        settings.apiKey.value.toList ∧
      ReplacedTwice environment written.baseUrl.toList
        settings.baseUrl.toList ∧
      Inserted environment ('\\' ∈ content.toList)
        written.defaults.model.toList settings.defaults.model.toList := by
  obtain ⟨other, text, parsed, isReadToo, isText, isParsed, isExpanded,
    admissible, _⟩ := load_eq_ok_iff.mp loaded
  obtain rfl := Except.ok.inj (isRead.symm.trans isReadToo)
  obtain ⟨isKey, isBaseUrl, same⟩ := Settings.expand_eq_ok_iff.mp isExpanded
  have follow := parse_follows plainValues isText isWritten
    (Format.parse_json_eq_ok_iff.mp isParsed)
  have version : settings.version = parsed.version := congrArg (·.version) same
  have resolved : ¬ HoldsPlaceholder parsed.version.toList := by
    rw [← version]
    exact admissible.versionExpanded
  rw [version, show settings.retry = parsed.retry from congrArg (·.retry) same,
    show settings.connection = parsed.connection from
      congrArg (·.connection) same,
    show settings.defaults = parsed.defaults from congrArg (·.defaults) same]
  exact ⟨follow.retry.symm, follow.connection.symm,
    follow.defaults.temperature.symm, follow.defaults.topP.symm,
    follow.version.replaced_of_not_holds resolved,
    follow.apiKey.twice isKey admissible.keyExpanded,
    follow.baseUrl.twice isBaseUrl admissible.baseUrlExpanded,
    follow.defaults.model⟩

private theorem forwarding_plainValues (text : List Char) :
    PlainValues forwarding text := by
  intro name value _ _ isSet
  unfold forwarding at isSet
  split at isSet
  · cases isSet
    decide
  · split at isSet
    · cases isSet
      decide
    · cases isSet

/-- The value of a variable stands in the key until the second pass replaces what
it refers to. -/
theorem load_inserts_key :
    Settings.codec.parse (localText "$\x7bOUTER\x7d" "glm") =
        .ok (localSettings "$\x7bOUTER\x7d" "glm") ∧
      load .json "c.json"
          (.file (Text.Utf8.encode (localText "$\x7bOUTER\x7d" "glm")))
          forwarding =
        .ok (localSettings "a.b" "glm",
          (localSettings "a.b" "glm").warnings) ∧
      ReplacedTwice forwarding "$\x7bOUTER\x7d".toList "a.b".toList := by
  have isWritten : Settings.codec.parse (localText "$\x7bOUTER\x7d" "glm") =
      .ok (localSettings "$\x7bOUTER\x7d" "glm") :=
    parse_textsObject _ _ _
  obtain ⟨_, _, _, _, _, apiKey, _⟩ := load_inserts_plain_values
    (read_encoded _) isWritten (forwarding_plainValues _) load_forwarding_key
  exact ⟨isWritten, load_forwarding_key, apiKey⟩

/-! ## Values that are not plain -/

/-- An environment with a key that ends its literal and spells an address. -/
def injecting : Environment := fun name =>
  if name = "KEY" then some "a.b\",\"base_url\":\"http://[::1]" else none

/-- The object that spells a key. -/
def keyObject (apiKey : String) : Value :=
  .object [("version", .text supportedVersion), ("api_key", .text apiKey)]

/-- The object that spells a key and an address. -/
def addressObject (apiKey baseUrl : String) : Value :=
  .object [("version", .text supportedVersion), ("api_key", .text apiKey),
    ("base_url", .text baseUrl)]

private theorem parse_keyObject (apiKey : String) :
    Settings.codec.parse (keyObject apiKey).toText = .ok (.ofKey ⟨apiKey⟩) := by
  have reads : Settings.codec.toReader.Reads 1 (keyObject apiKey)
      (.ofKey ⟨apiKey⟩) :=
    Record.reads_object (.plain rfl rfl (Codec.plainText_roundTrips _)
      (.plain rfl rfl (reads_secret apiKey) .nil)) rfl
  exact Codec.parse_toText reads (by decide)

/-- The settings with a key, an address and everything else as usual. -/
def addressSettings (apiKey baseUrl : String) : Settings :=
  { Settings.ofKey ⟨apiKey⟩ with baseUrl }

private theorem parse_addressObject (apiKey baseUrl : String) :
    Settings.codec.parse (addressObject apiKey baseUrl).toText =
      .ok (addressSettings apiKey baseUrl) := by
  have reads : Settings.codec.toReader.Reads 1 (addressObject apiKey baseUrl)
      (addressSettings apiKey baseUrl) :=
    Record.reads_object (.plain rfl rfl (Codec.plainText_roundTrips _)
      (.plain rfl rfl (reads_secret apiKey)
        (.plain rfl rfl (Codec.plainText_roundTrips _) .nil))) rfl
  exact Codec.parse_toText reads (by decide)

private theorem load_injected_address :
    load .json "c.json"
        (.file (Text.Utf8.encode (keyObject "$\x7bKEY\x7d").toText))
        injecting =
      .ok (addressSettings "a.b" "http://[::1]",
        (addressSettings "a.b" "http://[::1]").warnings) := by
  have isText : expand injecting (keyObject "$\x7bKEY\x7d").toText =
      .ok (addressObject "a.b" "http://[::1]").toText := by
    decide +kernel
  have isExpanded : (addressSettings "a.b" "http://[::1]").expand injecting =
      .ok (addressSettings "a.b" "http://[::1]") := by
    decide +kernel
  exact load_json isText (parse_addressObject _ _) isExpanded
    (by decide +kernel)

private theorem not_replaced_address :
    ¬ Replaced injecting publicBaseUrl.toList "http://[::1]".toList := by
  intro replaced
  have isReplaced : expand injecting publicBaseUrl = .ok "http://[::1]" :=
    expand_eq_ok_iff.mpr replaced
  exact absurd isReplaced (by decide +kernel)

private theorem not_replaced_key :
    ¬ Replaced forwarding "$\x7bOUTER\x7d".toList "a.b".toList := by
  intro replaced
  have isReplaced : expand forwarding "$\x7bOUTER\x7d" = .ok "a.b" :=
    expand_eq_ok_iff.mpr replaced
  exact absurd isReplaced (by decide +kernel)

/-- A key that ends its literal sets the base address, and a key that refers to
another variable is expanded itself. -/
theorem load_reads_and_expands_keys :
    (∃ written settings warnings,
      Settings.codec.parse (keyObject "$\x7bKEY\x7d").toText = .ok written ∧
        load .json "c.json"
            (.file (Text.Utf8.encode (keyObject "$\x7bKEY\x7d").toText))
            injecting = .ok (settings, warnings) ∧
        ¬ Replaced injecting written.baseUrl.toList
          settings.baseUrl.toList) ∧
      ∃ written settings warnings,
        Settings.codec.parse (localText "$\x7bOUTER\x7d" "glm") =
            .ok written ∧
          load .json "c.json"
              (.file (Text.Utf8.encode (localText "$\x7bOUTER\x7d" "glm")))
              forwarding = .ok (settings, warnings) ∧
          ¬ Replaced forwarding written.apiKey.value.toList
            settings.apiKey.value.toList :=
  ⟨⟨_, _, _, parse_keyObject _, load_injected_address, not_replaced_address⟩,
    _, _, _, parse_textsObject _ _ _, load_forwarding_key, not_replaced_key⟩

end Parley.Config
