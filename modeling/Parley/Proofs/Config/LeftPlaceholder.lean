import Parley.Proofs.Config.Texts

/-!
Contract: where a placeholder may be left in settings that were loaded.

The version is a fixed text, and the key and the base address are checked to hold
no placeholder. The model is neither expanded again nor checked, so whatever was
read for it is loaded.

Owns: `Settings.texts`, and which of them hold placeholders.
-/

namespace Parley.Config

open Parley.Log (Entry)
open Placeholder (Environment HoldsPlaceholder Replaced)

/-- The texts of settings. -/
def Settings.texts (settings : Settings) : List String :=
  [settings.version, settings.apiKey.value, settings.baseUrl,
    settings.defaults.model]

/-- Of the texts of admissible settings, only the model may hold a
placeholder. -/
theorem Settings.Admissible.texts_resolved_iff {settings : Settings}
    (admissible : settings.Admissible) :
    (∀ text ∈ settings.texts, ¬ HoldsPlaceholder text.toList) ↔
      ¬ HoldsPlaceholder settings.defaults.model.toList := by
  unfold Settings.texts
  rw [List.forall_mem_cons, List.forall_mem_cons, List.forall_mem_cons,
    List.forall_mem_singleton]
  exact ⟨fun ⟨_, _, _, model⟩ => model, fun model =>
    ⟨admissible.versionExpanded, admissible.keyExpanded,
      admissible.baseUrlExpanded, model⟩⟩

/-- The model of settings that were loaded is what was read from the file, and
no placeholder is left in any text of the settings exactly if none stood in what
was read for the model. -/
theorem load_resolves_texts_iff {format : Format} {path : String}
    {source : Source} {environment : Environment} {settings : Settings}
    {warnings : List Entry}
    (loaded : load format path source environment = .ok (settings, warnings)) :
    ∃ content text parsed, source.read = .ok content ∧
      Replaced environment content.toList text.toList ∧
      format.parse path text = .ok parsed ∧
      settings.defaults.model = parsed.defaults.model ∧
      ((∀ held ∈ settings.texts, ¬ HoldsPlaceholder held.toList) ↔
        ¬ HoldsPlaceholder parsed.defaults.model.toList) := by
  obtain ⟨content, text, parsed, isRead, isText, isParsed, isExpanded,
    admissible, _⟩ := load_eq_ok_iff.mp loaded
  obtain ⟨_, _, same⟩ := Settings.expand_eq_ok_iff.mp isExpanded
  have model : settings.defaults.model = parsed.defaults.model :=
    congrArg (·.defaults.model) same
  refine ⟨content, text, parsed, isRead, isText, isParsed, model, ?_⟩
  rw [← model]
  exact admissible.texts_resolved_iff

/-- A variable's value that refers to another variable is followed in the key. -/
theorem load_follows_key :
    load .json "c.json"
        (.file (Text.Utf8.encode (localText "$\x7bOUTER\x7d" "glm")))
        forwarding =
      .ok (localSettings "a.b" "glm", (localSettings "a.b" "glm").warnings) ∧
    ∀ held ∈ (localSettings "a.b" "glm").texts,
      ¬ HoldsPlaceholder held.toList := by
  obtain ⟨_, _, _, _, _, _, model, resolved⟩ :=
    load_resolves_texts_iff load_forwarding_key
  refine ⟨load_forwarding_key, resolved.mpr ?_⟩
  rw [← model]
  decide +kernel

/-- A variable's value that refers to another variable is left in the model. -/
theorem load_leaves_placeholder_in_model :
    ∃ settings warnings,
      load .json "c.json"
          (.file (Text.Utf8.encode (localText "a.b" "$\x7bOUTER\x7d")))
          forwarding = .ok (settings, warnings) ∧
        ∃ held ∈ settings.texts, HoldsPlaceholder held.toList := by
  have isText : expand forwarding (localText "a.b" "$\x7bOUTER\x7d") =
      .ok (localText "a.b" "$\x7bINNER\x7d") := by
    decide +kernel
  have isExpanded : (localSettings "a.b" "$\x7bINNER\x7d").expand forwarding =
      .ok (localSettings "a.b" "$\x7bINNER\x7d") := by
    decide +kernel
  refine ⟨_, _, load_localText isText isExpanded (by decide +kernel),
    "$\x7bINNER\x7d", ?_, by decide +kernel⟩
  exact List.mem_cons_of_mem _ (List.mem_cons_of_mem _
    (List.mem_cons_of_mem _ List.mem_cons_self))

end Parley.Config
