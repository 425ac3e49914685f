import Parley.Proofs.Config.InertText
import Parley.Proofs.Config.Load
import Parley.Proofs.Formats

/-!
Contract: settings are read from every text that spells them.

The members of each object may stand in any order. A field or a whole section
with the value that it has when it is absent may be left out, and a sampling value
that is not set is `null`. With one member more, known to its object or not, no
settings are read.

Owns: the fields of settings, `Settings.SpelledBy`, `Settings.CrowdedBy`, and the
reading of such texts.
-/

namespace Parley

open Parley.Json (Entry Padded)
open Parley.Numeric (Single)
open Parley.Schema (Codec CrowdedWithin Field Member NoOther ObjectText Reader
  Record Section Setter SpellsInteger SpellsOptional SpellsSingle SpellsText)

/-! ## Spellings -/

def Retry.Policy.fields (policy : Retry.Policy) : List Field := [
  ⟨"retry_times", policy.retryTimes = Policy.standard.retryTimes,
    SpellsInteger policy.retryTimes.toNat⟩,
  ⟨"max_jitter_ms", policy.maxJitterMs = Policy.standard.maxJitterMs,
    SpellsInteger policy.maxJitterMs.toNat⟩]

namespace Config

def Defaults.fields (defaults : Defaults) : List Field := [
  ⟨"model", defaults.model = standard.model, SpellsText defaults.model⟩,
  ⟨"temperature", defaults.temperature = standard.temperature,
    SpellsOptional SpellsSingle defaults.temperature⟩,
  ⟨"top_p", defaults.topP = standard.topP,
    SpellsOptional SpellsSingle defaults.topP⟩]

def Connection.fields (connection : Connection) : List Field := [
  ⟨"connect_timeout_ms",
    connection.connectTimeoutMs = standard.connectTimeoutMs,
    SpellsInteger connection.connectTimeoutMs.toNat⟩,
  ⟨"request_timeout_ms",
    connection.requestTimeoutMs = standard.requestTimeoutMs,
    SpellsInteger connection.requestTimeoutMs.toNat⟩]

namespace Settings

/-- The fields of settings that are texts. -/
def textFields (settings : Settings) : List Field := [
  ⟨"version", False, SpellsText settings.version⟩,
  ⟨"api_key", False, SpellsText settings.apiKey.value⟩,
  ⟨"base_url", settings.baseUrl = publicBaseUrl, SpellsText settings.baseUrl⟩]

/-- The fields of settings that are objects of their own. -/
def sections (settings : Settings) : List Section := [
  ⟨"retry", settings.retry = .standard, settings.retry.fields⟩,
  ⟨"defaults", settings.defaults = .standard, settings.defaults.fields⟩,
  ⟨"connection", settings.connection = .standard, settings.connection.fields⟩]

def fields (settings : Settings) : List Field :=
  settings.textFields ++ settings.sections.map Section.field

/-- Whether a JSON text spells settings. -/
def SpelledBy (settings : Settings) : List Char → Prop :=
  ObjectText NoOther settings.fields

/-- Whether a JSON text spells settings but for one member too many, in one of the
four objects. No placeholder stands in that member. -/
def CrowdedBy (settings : Settings) : List Char → Prop :=
  CrowdedWithin Unreferring settings.textFields settings.sections

end Settings

end Config

/-! ## Sections -/

namespace Retry.Policy

/-- The fields of a policy with what they set. -/
def setters (policy : Policy) : List (Setter Policy) :=
  policy.fields.zipWith Setter.mk [
    fun current => { current with retryTimes := policy.retryTimes },
    fun current => { current with maxJitterMs := policy.maxJitterMs }]

theorem restores (policy : Policy) :
    record.Restores 0 policy policy.setters := by
  refine .of_members (by decide) (.cons ?_ (.cons ?_ .nil))
    (by simp [setters, fields, List.zipWith]) rfl
  · exact .plain (fun _ spells => spells.parses_u32) id rfl nofun
  · exact .plain (fun _ spells => spells.parses_u64) id rfl nofun

theorem members_measure :
    ∀ member ∈ record.members, member.reader.Measures := by
  simp only [record, List.forall_mem_cons]
  exact ⟨Member.plain_measures Schema.u32Type.measures,
    Member.plain_measures Schema.u64Type.measures, List.forall_mem_nil _⟩

theorem plain (policy : Policy) :
    ∀ field ∈ policy.fields, Config.PlainField field := by
  simp only [fields, List.forall_mem_cons]
  exact ⟨.integer (by decide) _, .integer (by decide) _, List.forall_mem_nil _⟩

end Retry.Policy

namespace Config

namespace Defaults

/-- The fields of the parameters with what they set. -/
def setters (defaults : Defaults) : List (Setter Defaults) :=
  defaults.fields.zipWith Setter.mk [
    fun current => { current with model := defaults.model },
    fun current => { current with temperature := defaults.temperature },
    fun current => { current with topP := defaults.topP }]

theorem restores (defaults : Defaults) :
    record.Restores 0 defaults defaults.setters := by
  refine .of_members (by decide) (.cons ?_ (.cons ?_ (.cons ?_ .nil)))
    (by simp [setters, fields, List.zipWith]) rfl
  · exact .plain (fun _ spells => spells.parses) id rfl nofun
  · exact .plain (fun _ spells => spells.parses_single) id rfl nofun
  · exact .plain (fun _ spells => spells.parses_single) id rfl nofun

theorem members_measure :
    ∀ member ∈ record.members, member.reader.Measures := by
  simp only [record, List.forall_mem_cons]
  exact ⟨Member.plain_measures Schema.textType.measures,
    Member.plain_measures Schema.singleType.measures.optional,
    Member.plain_measures Schema.singleType.measures.optional, List.forall_mem_nil _⟩

theorem plain {defaults : Defaults}
    (resolved : ¬ Placeholder.HoldsPlaceholder defaults.model.toList) :
    ∀ field ∈ defaults.fields, PlainField field := by
  simp only [fields, List.forall_mem_cons]
  exact ⟨.text (by decide) resolved, .sampling (by decide) _,
    .sampling (by decide) _, List.forall_mem_nil _⟩

end Defaults

namespace Connection

/-- The fields of the timeouts with what they set. -/
def setters (connection : Connection) : List (Setter Connection) :=
  connection.fields.zipWith Setter.mk [
    fun current =>
      { current with connectTimeoutMs := connection.connectTimeoutMs },
    fun current =>
      { current with requestTimeoutMs := connection.requestTimeoutMs }]

theorem restores (connection : Connection) :
    record.Restores 0 connection connection.setters := by
  refine .of_members (by decide) (.cons ?_ (.cons ?_ .nil))
    (by simp [setters, fields, List.zipWith]) rfl
  · exact .plain (fun _ spells => spells.parses_u64) id rfl nofun
  · exact .plain (fun _ spells => spells.parses_u64) id rfl nofun

theorem members_measure :
    ∀ member ∈ record.members, member.reader.Measures := by
  simp only [record, List.forall_mem_cons]
  exact ⟨Member.plain_measures Schema.u64Type.measures,
    Member.plain_measures Schema.u64Type.measures, List.forall_mem_nil _⟩

theorem plain (connection : Connection) :
    ∀ field ∈ connection.fields, PlainField field := by
  simp only [fields, List.forall_mem_cons]
  exact ⟨.integer (by decide) _, .integer (by decide) _, List.forall_mem_nil _⟩

end Connection

/-! ## Settings -/

namespace Settings

/-- The fields of settings with what they set. -/
def setters (settings : Settings) : List (Setter Settings) :=
  settings.fields.zipWith Setter.mk [
    fun current => { current with version := settings.version },
    fun current => { current with apiKey := settings.apiKey },
    fun current => { current with baseUrl := settings.baseUrl },
    fun current => { current with retry := settings.retry },
    fun current => { current with defaults := settings.defaults },
    fun current => { current with connection := settings.connection }]

theorem restores (settings : Settings) :
    record.Restores 1 settings settings.setters := by
  refine .of_members (by decide) (.cons ?_ (.cons ?_ (.cons ?_
      (.cons ?_ (.cons ?_ (.cons ?_ .nil))))))
    (by simp [setters, fields, textFields, sections, List.zipWith]) rfl
  · exact .plain (fun _ spells => spells.parses.mono (Nat.zero_le 1)) nofun rfl
      fun _ => id
  · exact .plain (fun _ spells =>
      (spells.parses.mono (Nat.zero_le 1)).map Secret.mk) nofun rfl fun _ => id
  · exact .plain (fun _ spells => spells.parses.mono (Nat.zero_le 1)) id rfl
      nofun
  · exact .plain (fun _ isObject => settings.retry.restores.parses
      (Record.ignores_noOther _) isObject) id rfl nofun
  · exact .plain (fun _ isObject => settings.defaults.restores.parses
      (Record.ignores_noOther _) isObject) id rfl nofun
  · exact .plain (fun _ isObject => settings.connection.restores.parses
      (Record.ignores_noOther _) isObject) id rfl nofun

/-- Settings are read from every text that spells them, with blanks around it. -/
theorem parse_spelled {settings : Settings} {core text : List Char}
    (spelled : settings.SpelledBy core) (padded : Padded core text) :
    codec.parse (String.ofList text) = .ok settings :=
  Schema.Codec.parse_padded
    (settings.restores.parses (Record.ignores_noOther _) spelled) (by decide)
    padded

theorem members_measure :
    ∀ member ∈ record.members, member.reader.Measures := by
  simp only [record, List.forall_mem_cons]
  exact ⟨Member.plain_measures Schema.textType.measures,
    Member.plain_measures (Schema.textType.measures.map Secret.mk),
    Member.plain_measures Schema.textType.measures,
    Member.plain_measures
      (Record.measures rfl Retry.Policy.members_measure),
    Member.plain_measures (Record.measures rfl Defaults.members_measure),
    Member.plain_measures (Record.measures rfl Connection.members_measure),
    List.forall_mem_nil _⟩

section Resolved

variable {settings : Settings}

/-- Of the texts of admissible settings only the model may hold a placeholder. -/
theorem plain_textFields (admissible : settings.Admissible) :
    ∀ field ∈ settings.textFields, PlainField field := by
  simp only [textFields, List.forall_mem_cons]
  exact ⟨.text (by decide) admissible.versionExpanded,
    .text (by decide) admissible.keyExpanded,
    .text (by decide) admissible.baseUrlExpanded, List.forall_mem_nil _⟩

theorem plain_sections
    (resolved : ¬ Placeholder.HoldsPlaceholder settings.defaults.model.toList) :
    ∀ part ∈ settings.sections, PlainSection part := by
  simp only [sections, List.forall_mem_cons]
  exact ⟨⟨(by decide : '$' ∉ "retry".toList), settings.retry.plain⟩,
    ⟨(by decide : '$' ∉ "defaults".toList), Defaults.plain resolved⟩,
    ⟨(by decide : '$' ∉ "connection".toList), settings.connection.plain⟩,
    List.forall_mem_nil _⟩

/-- A member that is refused in a section is refused in the settings. -/
theorem refuses_section
    (resolved : ¬ Placeholder.HoldsPlaceholder settings.defaults.model.toList) :
    ∀ part ∈ settings.sections, ∀ member ∈ record.members,
      member.key = part.key →
        ∀ value, Schema.Crowded Unreferring part.fields value →
          member.reader.Refuses value := by
  intro part isPart member isMember sameKey value crowded
  have values {part : Section} (plain : ∀ field ∈ part.fields, PlainField field) :
      ∀ field ∈ part.fields, field.SpellsValues :=
    fun field isField => (plain field isField).values
  have found := Schema.find?_key
    (List.pairwise_map.mp (by decide : (record.members.map Member.key).Nodup))
    isMember
  rw [sameKey] at found
  have plain := plain_sections resolved part isPart
  simp only [sections, List.mem_cons, List.not_mem_nil, or_false] at isPart
  rcases isPart with rfl | rfl | rfl
  · cases found
    exact Member.plain_refuses (Record.refuses_crowded rfl
      Retry.Policy.members_measure rfl (values plain.fields) crowded)
  · cases found
    exact Member.plain_refuses (Record.refuses_crowded rfl
      Defaults.members_measure rfl (values plain.fields) crowded)
  · cases found
    exact Member.plain_refuses (Record.refuses_crowded rfl
      Connection.members_measure rfl (values plain.fields) crowded)

/-- No settings are read from a text with one member too many. -/
theorem parse_crowded (admissible : settings.Admissible)
    (resolved : ¬ Placeholder.HoldsPlaceholder settings.defaults.model.toList)
    {core text : List Char} (crowded : settings.CrowdedBy core)
    (padded : Padded core text) :
    ∃ fault, codec.parse (String.ofList text) = .error fault := by
  have values : ∀ field ∈ settings.textFields, field.SpellsValues :=
    fun field isField => (plain_textFields admissible field isField).values
  have sectionValues : ∀ part ∈ settings.sections, ∀ field ∈ part.fields,
      field.SpellsValues := fun part isPart field isField =>
    ((plain_sections resolved part isPart).fields field isField).values
  exact Schema.Codec.parse_refused (Record.refuses_crowdedWithin rfl
    members_measure rfl values sectionValues (refuses_section resolved) crowded)
    padded

end Resolved

end Settings

/-! ## Written settings -/

/-- The text of a number is one of its spellings, if it is read back. -/
theorem spellsSingle_written {value : Single}
    (readsBack : Codec.single.parse (Codec.single.toText value) = .ok value) :
    SpellsSingle value (Codec.single.write value).write := by
  cases finite : value.isFinite with
  | false =>
      have empty : Codec.single.toText value = "null" :=
        congrArg String.ofList (write_of_not_finite finite)
      rw [empty] at readsBack
      cases readsBack
  | true =>
      obtain ⟨numeral, spelled, _⟩ := Json.single_numeral finite
      exact ⟨numeral, spelled, readsBack⟩

theorem spellsSampling_written {value : Option Single}
    (readsBack : ∀ held, value = some held →
      Codec.single.parse (Codec.single.toText held) = .ok held) :
    SpellsOptional SpellsSingle value (Codec.single.optional.write value).write := by
  cases value with
  | none => rfl
  | some held => exact spellsSingle_written (readsBack held rfl)

theorem spellsText_written (text : String) :
    SpellsText text (Json.Value.text text).write :=
  ⟨_, rfl, Json.denotes_written text.toList⟩

/-- The text that is written for settings spells them, if the numbers in it are
read back. -/
theorem Settings.spelled_written {settings : Settings}
    (temperature : ∀ value, settings.defaults.temperature = some value →
      Codec.single.parse (Codec.single.toText value) = .ok value)
    (topP : ∀ value, settings.defaults.topP = some value →
      Codec.single.parse (Codec.single.toText value) = .ok value) :
    settings.SpelledBy (codec.write settings).write := by
  have retry : ObjectText NoOther settings.retry.fields
      (Retry.Policy.codec.write settings.retry).write :=
    Schema.objectText_written (.cons ⟨rfl, rfl⟩ (.cons ⟨rfl, rfl⟩ .nil))
  have defaults : ObjectText NoOther settings.defaults.fields
      (Defaults.codec.write settings.defaults).write :=
    Schema.objectText_written (.cons ⟨rfl, spellsText_written _⟩
      (.cons ⟨rfl, spellsSampling_written temperature⟩
        (.cons ⟨rfl, spellsSampling_written topP⟩ .nil)))
  have connection : ObjectText NoOther settings.connection.fields
      (Connection.codec.write settings.connection).write :=
    Schema.objectText_written (.cons ⟨rfl, rfl⟩ (.cons ⟨rfl, rfl⟩ .nil))
  exact Schema.objectText_written (.cons ⟨rfl, spellsText_written _⟩
    (.cons ⟨rfl, spellsText_written _⟩ (.cons ⟨rfl, spellsText_written _⟩
      (.cons ⟨rfl, retry⟩ (.cons ⟨rfl, defaults⟩
        (.cons ⟨rfl, connection⟩ .nil))))))

end Config

end Parley
