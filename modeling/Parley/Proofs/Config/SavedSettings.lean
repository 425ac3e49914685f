import Parley.Proofs.Config.SpelledSettings

/-!
Contract: settings that were saved are loaded as they were.

No placeholder starts in the text of admissible settings, so no variable of the
environment changes it, and what is read from it needs no expansion.

Owns: the loading of documents that spell settings.
-/

namespace Parley.Config

open Parley.Json (Entry Padded)
open Parley.Numeric (Single)
open Parley.Schema (Codec Field NoOther ObjectText Section SpellsSingle SpellsText)

theorem expand_inert {text : List Char} (inert : Placeholder.Inert text)
    (environment : Placeholder.Environment) :
    expand environment (String.ofList text) = .ok (String.ofList text) :=
  expand_eq_ok_iff.mpr (Placeholder.replaced_of_not_holds
    (String.toList_ofList.symm ▸ inert.not_holds))

private theorem Settings.Admissible.expand_self {settings : Settings}
    (admissible : settings.Admissible)
    (environment : Placeholder.Environment) :
    settings.expand environment = .ok settings :=
  Settings.expand_eq_ok_iff.mpr
    ⟨Placeholder.replaced_of_not_holds admissible.keyExpanded,
      Placeholder.replaced_of_not_holds admissible.baseUrlExpanded, rfl⟩

/-- Admissible settings are loaded from what spells them, whatever variables are
set. -/
theorem load_spelled {settings : Settings} (valid : settings.validate = .ok ())
    (resolved : ¬ Placeholder.HoldsPlaceholder settings.defaults.model.toList)
    (path : String) (environment : Placeholder.Environment)
    {core text : List Char} (spelled : settings.SpelledBy core)
    (padded : Padded core text) :
    load .json path (.file (Text.Utf8.encode (String.ofList text)))
      environment = .ok (settings, settings.warnings) := by
  have admissible := Settings.validate_eq_ok_iff.mp valid
  have inert := inert_objectText spelled (Schema.forall_sections
    (Settings.plain_textFields admissible) fun part isPart =>
      (Settings.plain_sections resolved part isPart).field)
  exact load_json (expand_inert (inert_padded inert padded) environment)
    (Settings.parse_spelled spelled padded)
    (admissible.expand_self environment) valid

/-- Admissible settings whose model holds no placeholder are loaded, whatever
variables are set, from every document that spells them, and so from the one that
is written for them if the numbers in it are read back. With one member more, of
any key and value without placeholders, the document is malformed. -/
theorem saved_settings_reload {settings : Settings}
    (valid : settings.validate = .ok ())
    (resolved : ¬ Placeholder.HoldsPlaceholder settings.defaults.model.toList)
    (path : String) (environment : Placeholder.Environment) :
    (∀ core text, settings.SpelledBy core → Padded core text →
      load .json path (.file (Text.Utf8.encode (String.ofList text)))
        environment = .ok (settings, settings.warnings)) ∧
    ((∀ value, settings.defaults.temperature = some value ∨
        settings.defaults.topP = some value →
          Codec.single.parse (Codec.single.toText value) = .ok value) →
      load .json path
        (.file (Text.Utf8.encode (Settings.codec.toText settings)))
        environment = .ok (settings, settings.warnings)) ∧
    ∀ core text, settings.CrowdedBy core → Padded core text →
      ∃ line column message,
        load .json path (.file (Text.Utf8.encode (String.ofList text)))
          environment = .error (.malformed path Format.json.name (some line)
            (some column) message) := by
  refine ⟨fun core text => load_spelled valid resolved path environment,
    fun readsBack => ?_, fun core text crowded padded => ?_⟩
  · have spelled := Settings.spelled_written
      (fun value isSet => readsBack value (.inl isSet))
      (fun value isSet => readsBack value (.inr isSet))
    have padded := Json.padded_self (Settings.codec.write settings).write
    rw [List.nil_append, List.append_nil] at padded
    exact load_spelled valid resolved path environment spelled padded
  · have admissible := Settings.validate_eq_ok_iff.mp valid
    have inert := inert_crowdedWithin crowded
      (Settings.plain_textFields admissible) (Settings.plain_sections resolved)
    obtain ⟨fault, isRefused⟩ :=
      Settings.parse_crowded admissible resolved crowded padded
    exact ⟨_, _, _, load_malformed
      (expand_inert (inert_padded inert padded) environment) isRefused⟩

/-- Settings of a service at this machine that set one sampling value. -/
def sampledSettings : Settings :=
  { Settings.ofKey ⟨"a.b"⟩ with
    baseUrl := "http://[::1]"
    defaults := ⟨"glm", some Wire.defaultTemperature, none⟩ }

theorem sampled_reads_back :
    Codec.single.parse (Codec.single.toText Wire.defaultTemperature) =
      .ok Wire.defaultTemperature := by
  decide +kernel

/-- A text without escapes spells itself. -/
theorem spellsText_unescaped {text : List Char}
    (unescaped : text.flatMap Json.writeChar = text) :
    SpellsText (String.ofList text) ('"' :: (text ++ ['"'])) :=
  ⟨text, rfl, String.toList_ofList.symm ▸ Json.denotes_unescaped unescaped⟩

/-- The settings in an order of their own, with an escape in the key and without
the sections that are standard. -/
def reorderedDocument : String :=
  "\x7b\"defaults\": \x7b\"top_p\":null,\"model\":\"glm\"," ++
    "\"temperature\":0.95\x7d,\"api_key\":\"\\u0061.b\"," ++
    "\"base_url\":\"http://[::1]\" ,\"version\":\"0.1\"\x7d"

private theorem reorderedDocument_spells :
    ∃ text, sampledSettings.SpelledBy text ∧
      String.ofList text = reorderedDocument := by
  have number : SpellsSingle Wire.defaultTemperature "0.95".toList := by
    have digits : (Codec.single.write Wire.defaultTemperature).write =
        "0.95".toList := by
      decide +kernel
    exact digits ▸ spellsSingle_written sampled_reads_back
  have unit : Json.SpellsUnit "0061".toList 0x61 :=
    .digits (a := 0) (b := 0) (c := 6) (d := 1) (by decide) (by decide)
      (by decide) (by decide)
  have apiKey : SpellsText "a.b" _ :=
    ⟨_, rfl, .escaped (.unit unit (.inl (by decide)))
      (Json.denotes_unescaped (by decide : ".b".toList.flatMap _ = _))⟩
  have defaults : ObjectText NoOther sampledSettings.defaults.fields _ :=
    ⟨[⟨"top_p".toList, _⟩, ⟨"model".toList, _⟩, ⟨"temperature".toList, _⟩],
      .field [_, _] [] (Json.denotes_unescaped (by decide)) rfl
        (.field [] [_] (Json.denotes_unescaped (by decide))
          (spellsText_unescaped (by decide : "glm".toList.flatMap _ = _))
          (.field [] [] (Json.denotes_unescaped (by decide)) number
            (.nil (List.forall_mem_nil _)))),
      .parts (.next (Entry.laidOut _ .nil .nil .nil .nil)
        (.next (Entry.laidOut _ .nil .nil .nil .nil)
          (.last (Entry.laidOut _ .nil .nil .nil .nil))))⟩
  refine ⟨_, ⟨[⟨"defaults".toList, _⟩, ⟨"api_key".toList, _⟩,
      ⟨"base_url".toList, _⟩, ⟨"version".toList, _⟩],
    .field [_, _, _, _] [_] (Json.denotes_unescaped (by decide)) defaults
      (.field [_] [_, _, _] (Json.denotes_unescaped (by decide)) apiKey
        (.field [_] [_, _] (Json.denotes_unescaped (by decide))
          (spellsText_unescaped
            (by decide : "http://[::1]".toList.flatMap _ = _))
          (.field [] [_, _] (Json.denotes_unescaped (by decide))
            (spellsText_unescaped (by decide : "0.1".toList.flatMap _ = _))
            (.nil ?_)))),
    .parts (.next (Entry.laidOut _ .nil .nil .space .nil)
      (.next (Entry.laidOut _ .nil .nil .nil .nil)
        (.next (Entry.laidOut _ .nil .nil .nil .space)
          (.last (Entry.laidOut _ .nil .nil .nil .nil)))))⟩, ?_⟩
  · exact List.forall_mem_cons.mpr ⟨rfl, List.forall_mem_singleton.mpr rfl⟩
  · decide +kernel

/-- The settings with a list among their parameters that nobody knows. -/
def crowdedDocument : String :=
  "\x7b\"version\":\"0.1\",\"api_key\":\"a.b\"," ++
    "\"base_url\":\"http://[::1]\",\"defaults\":\x7b\"model\":\"glm\"," ++
    "\"stop\":[null],\"top_p\":null\x7d\x7d"

private theorem crowdedDocument_crowds :
    ∃ text, sampledSettings.CrowdedBy text ∧
      String.ofList text = crowdedDocument := by
  have list : Json.WellFormed "[null]".toList :=
    .list (.parts (.last (Json.padded_self _)))
      (List.forall_mem_singleton.mpr (.scalar .null))
  have surplus (others : List Entry) :
      Schema.Surplus (sampledSettings.defaults.fields.map Field.key) others
        ⟨"stop".toList, "[null]".toList⟩ := by
    have named := Json.denotes_unescaped
      (by decide : "stop".toList.flatMap _ = "stop".toList)
    refine ⟨named.isBody, list, fun key isKey isKnown => ?_⟩
    rw [← String.toList_injective (named.unique isKey)] at isKnown
    exact absurd isKnown (by decide)
  have defaults : Schema.Crowded Unreferring
      sampledSettings.defaults.fields _ :=
    ⟨[⟨"model".toList, _⟩], ⟨"stop".toList, "[null]".toList⟩,
      [⟨"top_p".toList, _⟩],
      .field [] [_, _] (Json.denotes_unescaped (by decide))
        (spellsText_unescaped (by decide : "glm".toList.flatMap _ = _))
        (.field [_] [] (Json.denotes_unescaped (by decide)) rfl
          (.nil (List.forall_mem_singleton.mpr rfl))),
      ⟨by decide +kernel, by decide +kernel⟩, surplus _,
      .parts (.next (Entry.laidOut _ .nil .nil .nil .nil)
        (.next (Entry.laidOut _ .nil .nil .nil .nil)
          (.last (Entry.laidOut _ .nil .nil .nil .nil))))⟩
  refine ⟨_, .inr ⟨[_], _, [_], rfl, [⟨"version".toList, _⟩,
      ⟨"api_key".toList, _⟩, ⟨"base_url".toList, _⟩, ⟨"defaults".toList, _⟩],
    .field [] _ (Json.denotes_unescaped (by decide))
      (spellsText_unescaped (by decide : "0.1".toList.flatMap _ = _))
      (.field [] _ (Json.denotes_unescaped (by decide))
        (spellsText_unescaped (by decide : "a.b".toList.flatMap _ = _))
        (.field [] _ (Json.denotes_unescaped (by decide))
          (spellsText_unescaped
            (by decide : "http://[::1]".toList.flatMap _ = _))
          (.field [_] [_] (Json.denotes_unescaped (by decide)) defaults
            (.nil ?_)))),
    .parts (.next (Entry.laidOut _ .nil .nil .nil .nil)
      (.next (Entry.laidOut _ .nil .nil .nil .nil)
        (.next (Entry.laidOut _ .nil .nil .nil .nil)
          (.last (Entry.laidOut _ .nil .nil .nil .nil)))))⟩, ?_⟩
  · exact List.forall_mem_cons.mpr ⟨rfl, List.forall_mem_singleton.mpr rfl⟩
  · decide +kernel

/-- Settings in an order of their own, and the text that is written for them, are
loaded. With a member that nobody knows the file is malformed. -/
theorem reordered_settings_reload :
    sampledSettings.validate = .ok () ∧
      ¬ Placeholder.HoldsPlaceholder sampledSettings.defaults.model.toList ∧
      load .json "c.json" (.file (Text.Utf8.encode reorderedDocument))
          (fun _ => none) =
        .ok (sampledSettings, sampledSettings.warnings) ∧
      load .json "c.json" (.file (Text.Utf8.encode
          (Settings.codec.toText sampledSettings))) (fun _ => none) =
        .ok (sampledSettings, sampledSettings.warnings) ∧
      ∃ line column message,
        load .json "c.json" (.file (Text.Utf8.encode crowdedDocument))
          (fun _ => none) = .error (.malformed "c.json" Format.json.name
            (some line) (some column) message) := by
  have valid : sampledSettings.validate = .ok () := by decide +kernel
  have resolved : ¬ Placeholder.HoldsPlaceholder
      sampledSettings.defaults.model.toList := by
    decide +kernel
  obtain ⟨spelled, written, crowded⟩ :=
    saved_settings_reload valid resolved "c.json" fun _ => none
  obtain ⟨core, isSpelled, isText⟩ := reorderedDocument_spells
  obtain ⟨crowdedCore, isCrowded, isCrowdedText⟩ := crowdedDocument_crowds
  have self (text : List Char) : Padded text text :=
    ⟨[], [], (List.append_nil text).symm, .nil, .nil⟩
  rw [← isText, ← isCrowdedText]
  refine ⟨valid, resolved, spelled core core isSpelled (self core),
    written fun value isSet => ?_,
    crowded crowdedCore crowdedCore isCrowded (self crowdedCore)⟩
  rcases isSet with isTemperature | isTopP
  · cases isTemperature
    exact sampled_reads_back
  · cases isTopP

end Parley.Config
