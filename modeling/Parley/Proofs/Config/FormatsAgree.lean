import Parley.Proofs.Config.LeftPlaceholder
import Parley.Proofs.Config.SavedSettings
import Parley.Proofs.Schema.Node

/-!
Contract: what is written for settings is loaded alike in both formats.

A JSON text of settings is also a YAML document. Of settings whose texts are printable
and hold no placeholder, either reader keeps everything but sampling values that are
not finite, and the settings are then admitted or refused for the same reason.

Owns: `Settings.kept`, and the loading of written settings.
-/

namespace Parley

open Parley.Json (Value writeMembers)
open Parley.Numeric (Single)
open Parley.Schema (Codec Member Record)
open Parley.Yaml (IsKey Portable Printable)

/-! ## Documents of settings -/

namespace Retry.Policy

theorem portable (policy : Policy) : Portable (codec.write policy) := by
  refine Record.portable_written ?_ ?_
  · show ∀ key ∈ ["retry_times", "max_jitter_ms"], IsKey key
    decide
  · simp only [record, List.forall_mem_cons]
    exact ⟨Member.plain_portable (Schema.portable_integer _),
      Member.plain_portable (Schema.portable_integer _), List.forall_mem_nil _⟩

theorem readsNode (policy : Policy) :
    codec.toReader.ReadsNode (codec.write policy) policy :=
  Record.readsNode_object (.plain rfl rfl (Codec.u32_readsNode _)
    (.plain rfl rfl (Codec.u64_readsNode _) .nil)) rfl

end Retry.Policy

namespace Config

namespace Connection

theorem portable (connection : Connection) : Portable (codec.write connection) := by
  refine Record.portable_written ?_ ?_
  · show ∀ key ∈ ["connect_timeout_ms", "request_timeout_ms"], IsKey key
    decide
  · simp only [record, List.forall_mem_cons]
    exact ⟨Member.plain_portable (Schema.portable_integer _),
      Member.plain_portable (Schema.portable_integer _), List.forall_mem_nil _⟩

theorem readsNode (connection : Connection) :
    codec.toReader.ReadsNode (codec.write connection) connection :=
  Record.readsNode_object (.plain rfl rfl (Codec.u64_readsNode _)
    (.plain rfl rfl (Codec.u64_readsNode _) .nil)) rfl

end Connection

/-- Whether a number is read back in both formats. -/
def ReadsBack (value : Single) : Prop :=
  Codec.single.parse (Codec.single.toText value) = .ok value ∧
    Codec.single.parseYaml (Codec.single.toText value) = .ok value

/-- The sampling value that a text keeps: numbers that are not finite have no digits
and are written like no number. -/
def keptSampling (value : Option Single) : Option Single :=
  value.filter (·.isFinite)

theorem keptSampling_eq_some_iff {value : Option Single} {held : Single} :
    keptSampling value = some held ↔ value = some held ∧ held.isFinite = true :=
  Option.filter_eq_some_iff

private theorem write_keptSampling (value : Option Single) :
    (Codec.single.optional.write (keptSampling value)).write =
      (Codec.single.optional.write value).write := by
  cases value with
  | none => rfl
  | some held =>
      cases finite : held.isFinite with
      | true =>
          have same : keptSampling (some held) = some held :=
            keptSampling_eq_some_iff.mpr ⟨rfl, finite⟩
          rw [same]
      | false =>
          have gone : keptSampling (some held) = none :=
            Option.filter_some_neg finite
          rw [gone]
          exact (write_of_not_finite finite).symm

theorem portable_sampling (value : Option Single) :
    Portable (Codec.single.optional.write (keptSampling value)) := by
  cases kept : keptSampling value with
  | none => exact .null
  | some held =>
      obtain ⟨_, finite⟩ := keptSampling_eq_some_iff.mp kept
      obtain ⟨numeral, spelled, _⟩ := Json.single_numeral finite
      exact .number (spelled ▸ .number numeral)

theorem readsNode_sampling {value : Option Single}
    (readsBack : ∀ held, value = some held → held.isFinite = true →
      ReadsBack held) :
    Codec.single.optional.toReader.ReadsNode
      (Codec.single.optional.write (keptSampling value)) (keptSampling value) := by
  cases kept : keptSampling value with
  | none => exact Schema.Reader.optional_readsNode_null _
  | some held =>
      obtain ⟨isHeld, finite⟩ := keptSampling_eq_some_iff.mp kept
      obtain ⟨numeral, spelled, _⟩ := Json.single_numeral finite
      exact (Codec.single_readsNode finite (readsBack held isHeld finite).2).optional
        spelled

namespace Defaults

/-- What a text keeps of the parameters. -/
def kept (defaults : Defaults) : Defaults where
  model := defaults.model
  temperature := keptSampling defaults.temperature
  topP := keptSampling defaults.topP

/-- Whether the finite sampling values are read back in both formats. -/
def ReadsBack (defaults : Defaults) : Prop :=
  ∀ value, defaults.temperature = some value ∨ defaults.topP = some value →
    value.isFinite = true → Config.ReadsBack value

theorem write_kept (defaults : Defaults) :
    (codec.write defaults.kept).write = (codec.write defaults).write := by
  show (Value.object [("model", .text defaults.model),
      ("temperature", Codec.single.optional.write (keptSampling _)),
      ("top_p", Codec.single.optional.write (keptSampling _))]).write =
    (Value.object [("model", .text defaults.model),
      ("temperature", Codec.single.optional.write _),
      ("top_p", Codec.single.optional.write _)]).write
  simp only [Value.write, writeMembers, write_keptSampling]

theorem portable {defaults : Defaults} (printable : Printable defaults.model.toList) :
    Portable (codec.write defaults.kept) := by
  refine Record.portable_written ?_ ?_
  · show ∀ key ∈ ["model", "temperature", "top_p"], IsKey key
    decide
  · simp only [record, List.forall_mem_cons]
    exact ⟨Member.plain_portable (.text printable),
      Member.plain_portable (portable_sampling _),
      Member.plain_portable (portable_sampling _), List.forall_mem_nil _⟩

theorem readsNode {defaults : Defaults} (readsBack : defaults.ReadsBack) :
    codec.toReader.ReadsNode (codec.write defaults.kept) defaults.kept :=
  Record.readsNode_object (.plain rfl rfl (Codec.plainText_readsNode _)
    (.plain rfl rfl
      (readsNode_sampling fun held isHeld => readsBack held (.inl isHeld))
      (.plain rfl rfl
        (readsNode_sampling fun held isHeld => readsBack held (.inr isHeld))
        .nil))) rfl

end Defaults

namespace Settings

/-- What a text keeps of settings. -/
def kept (settings : Settings) : Settings :=
  { settings with defaults := settings.defaults.kept }

theorem portable {settings : Settings}
    (printable : ∀ text ∈ settings.texts, Printable text.toList) :
    Portable (codec.write settings.kept) := by
  simp only [texts, List.forall_mem_cons] at printable
  obtain ⟨version, apiKey, baseUrl, model, _⟩ := printable
  refine Record.portable_written ?_ ?_
  · show ∀ key ∈ ["version", "api_key", "base_url", "retry", "defaults",
      "connection"], IsKey key
    decide
  · simp only [record, List.forall_mem_cons]
    exact ⟨Member.plain_portable (.text version),
      Member.plain_portable (.text apiKey), Member.plain_portable (.text baseUrl),
      Member.plain_portable (Retry.Policy.portable _),
      Member.plain_portable (Defaults.portable model),
      Member.plain_portable (Connection.portable _), List.forall_mem_nil _⟩

theorem readsNode {settings : Settings} (readsBack : settings.defaults.ReadsBack) :
    codec.toReader.ReadsNode (codec.write settings.kept) settings.kept :=
  Record.readsNode_object (.plain rfl rfl (Codec.plainText_readsNode _)
    (.plain rfl rfl ((Codec.plainText_readsNode _).map Secret.mk)
      (.plain rfl rfl (Codec.plainText_readsNode _)
        (.plain rfl rfl (Retry.Policy.readsNode _)
          (.plain rfl rfl (Defaults.readsNode readsBack)
            (.plain rfl rfl (Connection.readsNode _) .nil)))))) rfl

/-- What a text does not keep is not written either. -/
theorem write_kept (settings : Settings) :
    (codec.write settings.kept).write = (codec.write settings).write := by
  show (Value.object [_, _, _, _, ("defaults", Defaults.codec.write _), _]).write =
    (Value.object [_, _, _, _, ("defaults", Defaults.codec.write _), _]).write
  simp only [Value.write, writeMembers, Defaults.write_kept, kept]

end Settings

/-! ## Loading -/

/-- Settings are loaded from a text that a format takes for them, if no placeholder
stands in it. -/
theorem load_parsed {format : Format} {path text : String}
    {environment : Placeholder.Environment} {settings : Settings}
    (inert : expand environment text = .ok text)
    (isParsed : format.parse path text = .ok settings)
    (resolved : settings.expand environment = .ok settings) :
    load format path (.file (Text.Utf8.encode text)) environment =
      (settings.review.map (Prod.mk settings)).mapError .rejected := by
  rw [load, read_encoded]
  show (expand environment text >>= fun text =>
    format.parse path text >>= _) = _
  rw [inert]
  show (format.parse path text >>= _) = _
  rw [isParsed]
  show (settings.expand environment >>= _) = _
  rw [resolved]
  show (settings.review.mapError LoadFailure.rejected >>= _) = _
  cases settings.review <;> rfl

namespace Settings

variable {settings : Settings}

/-- What is written for settings spells what it keeps of them. -/
theorem spelled_kept (readsBack : settings.defaults.ReadsBack) :
    settings.kept.SpelledBy (codec.write settings).write := by
  rw [← write_kept]
  refine spelled_written (fun value isKept => ?_) fun value isKept => ?_
  · obtain ⟨isSet, finite⟩ := keptSampling_eq_some_iff.mp isKept
    exact (readsBack value (.inl isSet) finite).1
  · obtain ⟨isSet, finite⟩ := keptSampling_eq_some_iff.mp isKept
    exact (readsBack value (.inr isSet) finite).1

private theorem parse_written (readsBack : settings.defaults.ReadsBack) :
    codec.parse (codec.toText settings) = .ok settings.kept := by
  have padded := Json.padded_self (codec.write settings).write
  rw [List.nil_append, List.append_nil] at padded
  exact parse_spelled (spelled_kept readsBack) padded

private theorem parseYaml_written
    (printable : ∀ text ∈ settings.texts, Printable text.toList)
    (readsBack : settings.defaults.ReadsBack) :
    codec.parseYaml (codec.toText settings) = .ok settings.kept := by
  have same : codec.toText settings = (codec.write settings.kept).toText :=
    congrArg String.ofList (write_kept settings).symm
  obtain ⟨root, renders, isParsed⟩ :=
    codec.parseYaml_portable (portable printable)
  rw [same, isParsed]
  exact readsNode readsBack root [] root renders

/-- No placeholder stands in what is written for settings whose texts hold none. -/
theorem expand_written
    (resolved : ∀ text ∈ settings.texts,
      ¬ Placeholder.HoldsPlaceholder text.toList)
    (readsBack : settings.defaults.ReadsBack)
    (environment : Placeholder.Environment) :
    Config.expand environment (codec.toText settings) =
      .ok (codec.toText settings) := by
  simp only [texts, List.forall_mem_cons] at resolved
  obtain ⟨version, apiKey, baseUrl, model, _⟩ := resolved
  have arePlain : ∀ field ∈ settings.kept.textFields, PlainField field := by
    simp only [textFields, List.forall_mem_cons]
    exact ⟨.text (by decide) version, .text (by decide) apiKey,
      .text (by decide) baseUrl, List.forall_mem_nil _⟩
  have areSections : ∀ part ∈ settings.kept.sections, PlainSection part :=
    plain_sections model
  have inert := inert_objectText (spelled_kept readsBack)
    (Schema.forall_sections arePlain fun part isPart =>
      (areSections part isPart).field)
  exact expand_inert inert environment

private theorem expand_kept
    (resolved : ∀ text ∈ settings.texts,
      ¬ Placeholder.HoldsPlaceholder text.toList)
    (environment : Placeholder.Environment) :
    settings.kept.expand environment = .ok settings.kept := by
  simp only [texts, List.forall_mem_cons] at resolved
  obtain ⟨_, apiKey, baseUrl, _⟩ := resolved
  exact Settings.expand_eq_ok_iff.mpr
    ⟨Placeholder.replaced_of_not_holds apiKey,
      Placeholder.replaced_of_not_holds baseUrl, rfl⟩

end Settings

/-- What is written for settings is loaded in either format, and what it keeps of
them is admitted or refused. -/
theorem load_written {settings : Settings}
    (printable : ∀ text ∈ settings.texts, Printable text.toList)
    (resolved : ∀ text ∈ settings.texts,
      ¬ Placeholder.HoldsPlaceholder text.toList)
    (readsBack : settings.defaults.ReadsBack)
    (format : Format) (path : String) (environment : Placeholder.Environment) :
    load format path
        (.file (Text.Utf8.encode (Settings.codec.toText settings))) environment =
      (settings.kept.review.map (Prod.mk settings.kept)).mapError .rejected := by
  refine load_parsed (Settings.expand_written resolved readsBack environment) ?_
    (Settings.expand_kept resolved environment)
  cases format with
  | yaml =>
      rw [Format.parse, Settings.parseYaml_written printable readsBack]
      rfl
  | json =>
      rw [Format.parse, Settings.parse_written readsBack]
      rfl

/-- Settings whose texts are printable and hold no placeholder are loaded alike from
what is written for them in either format, whatever variables are set. Neither format
finds the text malformed: what is kept of the settings is loaded, or the same field of
it is refused for the same reason. -/
theorem formats_agree {settings : Settings}
    (printable : ∀ text ∈ settings.texts, Printable text.toList)
    (resolved : ∀ text ∈ settings.texts,
      ¬ Placeholder.HoldsPlaceholder text.toList)
    (readsBack : settings.defaults.ReadsBack)
    (yamlPath jsonPath : String) (environment : Placeholder.Environment) :
    let source := Source.file (Text.Utf8.encode (Settings.codec.toText settings))
    load .yaml yamlPath source environment =
        load .json jsonPath source environment ∧
      load .json jsonPath source environment =
        (settings.kept.review.map (Prod.mk settings.kept)).mapError .rejected := by
  have alike := load_written printable resolved readsBack
  exact ⟨(alike .yaml yamlPath environment).trans
      (alike .json jsonPath environment).symm,
    alike .json jsonPath environment⟩

/-- Settings with marks of both formats in their texts, and with a sampling value that
is no number. -/
def awkwardSettings : Settings :=
  { Settings.ofKey ⟨"a.\"b\\c\": \x7bd\x7d # 'e' - [f], $\x7b\x7d"⟩ with
    baseUrl := "http://[::1]"
    defaults := ⟨"null", some Wire.defaultTemperature, some .nan⟩ }

theorem awkwardSettings_readsBack : awkwardSettings.defaults.ReadsBack := by
  rintro value (isSet | isSet) finite
  · cases isSet
    exact ⟨sampled_reads_back, by decide +kernel⟩
  · cases isSet
    cases finite

/-- Awkward settings are loaded alike, without the value that is no number. -/
theorem awkwardSettings_load_alike :
    (∀ text ∈ awkwardSettings.texts, Printable text.toList) ∧
      (∀ text ∈ awkwardSettings.texts,
        ¬ Placeholder.HoldsPlaceholder text.toList) ∧
      awkwardSettings.defaults.ReadsBack ∧
      awkwardSettings.kept.defaults.topP = none ∧
      load .yaml "c.yaml" (.file (Text.Utf8.encode
          (Settings.codec.toText awkwardSettings))) (fun _ => none) =
        .ok (awkwardSettings.kept, awkwardSettings.kept.warnings) ∧
      load .json "c.json" (.file (Text.Utf8.encode
          (Settings.codec.toText awkwardSettings))) (fun _ => none) =
        .ok (awkwardSettings.kept, awkwardSettings.kept.warnings) := by
  have printable : ∀ text ∈ awkwardSettings.texts, Printable text.toList := by
    decide +kernel
  have resolved : ∀ text ∈ awkwardSettings.texts,
      ¬ Placeholder.HoldsPlaceholder text.toList := by
    decide +kernel
  have valid : awkwardSettings.kept.validate = .ok () := by decide +kernel
  have reviewed : awkwardSettings.kept.review =
      .ok awkwardSettings.kept.warnings := by
    rw [Settings.review, valid]
    rfl
  obtain ⟨same, isLoaded⟩ := formats_agree printable resolved
    awkwardSettings_readsBack "c.yaml" "c.json" fun _ => none
  rw [reviewed] at isLoaded
  exact ⟨printable, resolved, awkwardSettings_readsBack, rfl,
    same.trans isLoaded, isLoaded⟩

end Config

end Parley
