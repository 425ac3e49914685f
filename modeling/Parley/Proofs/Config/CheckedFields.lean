import Parley.Proofs.Config.Load
import Parley.Proofs.Provider.Merge

/-!
Contract: whom a rejection blames.

The checks of settings are a table of conditions, each on the value of one field,
of which the first that fails is reported. So settings pass exactly if every field
is sound by itself, a rejection names a field that is not, and a field that is put
right is not blamed again and spoils no other.

Owns: `CheckedField` and the values that are sound for it, `checks`, and what the
outcome of `Settings.review` says about the fields.
-/

namespace Parley.Config

open Parley.Log (Entry)
open Parley.Numeric (Single)
open Parley.Numeric.Binary (Between)
open Placeholder (HoldsPlaceholder)

/-! ## Fields -/

/-- A field of settings that has conditions to meet. -/
inductive CheckedField where
  | version
  | apiKey
  | baseUrl
  | model
  | temperature
  | topP
  | connectTimeout
  | requestTimeout
deriving DecidableEq, Repr

namespace CheckedField

/-- The path that a rejection names a field by. -/
def path : CheckedField → String
  | .version => "version"
  | .apiKey => "api_key"
  | .baseUrl => "base_url"
  | .model => "defaults.model"
  | .temperature => "defaults.temperature"
  | .topP => "defaults.top_p"
  | .connectTimeout => "connection.connect_timeout_ms"
  | .requestTimeout => "connection.request_timeout_ms"

@[reducible]
def Value : CheckedField → Type
  | .version | .baseUrl | .model => String
  | .apiKey => Secret
  | .temperature | .topP => Option Single
  | .connectTimeout | .requestTimeout => UInt64

def get (settings : Settings) : (field : CheckedField) → field.Value
  | .version => settings.version
  | .apiKey => settings.apiKey
  | .baseUrl => settings.baseUrl
  | .model => settings.defaults.model
  | .temperature => settings.defaults.temperature
  | .topP => settings.defaults.topP
  | .connectTimeout => settings.connection.connectTimeoutMs
  | .requestTimeout => settings.connection.requestTimeoutMs

/-- The settings with another value in one field. -/
def put (settings : Settings) :
    (field : CheckedField) → field.Value → Settings
  | .version, text => { settings with version := text }
  | .apiKey, key => { settings with apiKey := key }
  | .baseUrl, text => { settings with baseUrl := text }
  | .model, text =>
      { settings with defaults := { settings.defaults with model := text } }
  | .temperature, value =>
      { settings with
        defaults := { settings.defaults with temperature := value } }
  | .topP, value =>
      { settings with defaults := { settings.defaults with topP := value } }
  | .connectTimeout, milliseconds =>
      { settings with connection :=
          { settings.connection with connectTimeoutMs := milliseconds } }
  | .requestTimeout, milliseconds =>
      { settings with connection :=
          { settings.connection with requestTimeoutMs := milliseconds } }

/-- Whether a value meets all conditions of its field. -/
def Sound : (field : CheckedField) → field.Value → Prop
  | .version, text => text = supportedVersion
  | .apiKey, key => ¬ HoldsPlaceholder key.value.toList ∧ key.value ≠ ""
  | .baseUrl, text => ¬ HoldsPlaceholder text.toList ∧ IsBaseUrl text
  | .model, text => text ≠ ""
  | .temperature, value | .topP, value =>
      ∀ held, value = some held → Between held
  | .connectTimeout, milliseconds | .requestTimeout, milliseconds =>
      0 < milliseconds

variable {settings : Settings} {field other : CheckedField}

theorem path_injective (same : field.path = other.path) : field = other := by
  cases field <;> cases other <;> try rfl
  all_goals exact absurd same (by decide)

theorem get_put_same {value : field.Value} :
    get (put settings field value) field = value := by
  cases field <;> rfl

theorem get_put_other {value : field.Value} (differs : other ≠ field) :
    get (put settings field value) other = get settings other := by
  cases field <;> cases other <;> try rfl
  -- What is left are the cases of one field with itself.
  all_goals exact absurd rfl differs

end CheckedField

/-! ## Checks as a table -/

/-- A condition on the value of one field: the problem with each value that fails
it. -/
structure Check where
  field : CheckedField
  problem? : field.Value → Option Problem

namespace Check

/-- The problem with what fails a condition. -/
def problemUnless (condition : Bool) (problem : Problem) : Option Problem :=
  if condition then none else some problem

def unresolved? (text : String) : Option Problem :=
  (Placeholder.variableNames text).head?.map .unresolvedPlaceholder

def outsideUnit : Problem :=
  .outOfRange "Must be strictly between 0.0 and 1.0"

def notPositive : Problem :=
  .outOfRange "Must be greater than 0"

/-- Whether settings hold a value that meets the condition. -/
def Passes (settings : Settings) (check : Check) : Prop :=
  check.problem? (check.field.get settings) = none

/-- The outcome of checks made one after the other. -/
def run (settings : Settings) : List Check → Except Rejection Unit
  | [] => pure ()
  | check :: rest =>
      rejectIf check.field.path (check.problem? (check.field.get settings)) >>=
        fun _ => run settings rest

end Check

open Check in
/-- All checks of settings, in the order in which they are made. -/
def checks : List Check := [
  ⟨.apiKey, fun key => unresolved? key.value⟩,
  ⟨.baseUrl, unresolved?⟩,
  ⟨.version, fun text => problemUnless (!text.isEmpty) .missing⟩,
  ⟨.version, fun text =>
    problemUnless (text == supportedVersion) (.unsupportedVersion text)⟩,
  ⟨.apiKey, fun key => problemUnless (!key.value.isEmpty) .missing⟩,
  ⟨.baseUrl, urlProblem?⟩,
  ⟨.model, fun text => problemUnless (!text.isEmpty) .missing⟩,
  ⟨.temperature, fun value => problemUnless (isAdmissible value) outsideUnit⟩,
  ⟨.topP, fun value => problemUnless (isAdmissible value) outsideUnit⟩,
  ⟨.connectTimeout, fun milliseconds =>
    problemUnless (0 < milliseconds) notPositive⟩,
  ⟨.requestTimeout, fun milliseconds =>
    problemUnless (0 < milliseconds) notPositive⟩]

private theorem require_eq_rejectIf {condition : Bool} {field : String}
    {problem : Problem} :
    require condition field problem =
      rejectIf field (Check.problemUnless condition problem) := by
  cases condition <;> rfl

theorem Settings.validate_eq_run (settings : Settings) :
    settings.validate = Check.run settings checks := by
  unfold Settings.validate Settings.validateFields Defaults.validate
    Connection.validate
  simp only [require_eq_rejectIf, Settings.rejectPlaceholder, bind_assoc,
    checks, Check.run, bind_pure_unit]
  rfl

variable {settings : Settings}

namespace Check

private theorem run_eq_ok_iff {list : List Check} :
    run settings list = .ok () ↔ ∀ check ∈ list, check.Passes settings := by
  induction list with
  | nil => exact ⟨fun _ _ member => absurd member List.not_mem_nil, fun _ => rfl⟩
  | cons check rest inductionHypothesis =>
      rw [run, checks_eq_ok_iff, rejectIf_eq_ok_iff, inductionHypothesis,
        List.forall_mem_cons]
      rfl

/-- What is rejected is the field of a check that fails. -/
theorem run_eq_error {list : List Check} {rejection : Rejection}
    (rejected : run settings list = .error rejection) :
    ∃ check ∈ list, rejection.field = check.field.path ∧
      ¬ check.Passes settings := by
  induction list with
  | nil => cases rejected
  | cons check rest inductionHypothesis =>
      cases found : check.problem? (check.field.get settings) with
      | none =>
          rw [run, found] at rejected
          obtain ⟨later, member, named, fails⟩ := inductionHypothesis rejected
          exact ⟨later, List.mem_cons_of_mem _ member, named, fails⟩
      | some problem =>
          rw [run, found] at rejected
          cases rejected
          refine ⟨check, List.mem_cons_self, rfl, fun passes => ?_⟩
          exact Option.some_ne_none problem (found.symm.trans passes)

/-- Settings with which every check finds the same have the same outcome. -/
theorem run_congr {other : Settings} {list : List Check}
    (alike : ∀ check ∈ list, check.problem? (check.field.get other) =
      check.problem? (check.field.get settings)) :
    run other list = run settings list := by
  induction list with
  | nil => rfl
  | cons check rest inductionHypothesis =>
      rw [run, run, alike check List.mem_cons_self,
        inductionHypothesis fun later member =>
          alike later (List.mem_cons_of_mem _ member)]

private theorem problemUnless_eq_none_iff {condition : Bool}
    {problem : Problem} :
    problemUnless condition problem = none ↔ condition = true := by
  cases condition <;> constructor <;> intro same <;> cases same <;> rfl

private theorem unresolved?_eq_none_iff {text : String} :
    unresolved? text = none ↔ ¬ HoldsPlaceholder text.toList := by
  rw [unresolved?, Option.map_eq_none_iff, List.head?_eq_none_iff,
    Placeholder.variableNames_eq_nil_iff]

end Check

private theorem isAdmissible_iff {value : Option Single} :
    isAdmissible value = true ↔ ∀ held, value = some held → Between held := by
  rw [isAdmissible, Option.all_eq_true]
  exact forall_congr' fun held => imp_congr_right fun _ =>
    Numeric.Binary.insideUnit_iff_between

/-- The checks of a field, wherever they stand in the table, are together its
conditions. -/
theorem CheckedField.sound_get_iff {field : CheckedField} :
    field.Sound (field.get settings) ↔
      ∀ check ∈ checks, check.field = field → check.Passes settings := by
  -- What is left of the table are the checks of the field.
  cases field <;>
    simp only [checks, List.forall_mem_cons, List.not_mem_nil, reduceCtorEq,
      false_imp_iff, true_imp_iff, implies_true, true_and, and_true,
      Check.Passes, Sound, get, Check.problemUnless_eq_none_iff,
      Check.unresolved?_eq_none_iff, urlProblem?_eq_none_iff, not_isEmpty_iff,
      isAdmissible_iff, decide_eq_true_iff, beq_iff_eq]
  case version =>
    refine ⟨fun isVersion => ⟨?_, isVersion⟩, And.right⟩
    rw [isVersion]
    decide

/-! ## What a review says -/

private theorem Settings.review_eq_ok_iff {warnings : List Entry} :
    settings.review = .ok warnings ↔
      settings.validate = .ok () ∧ warnings = settings.warnings := by
  rw [Settings.review, Outcome.map_eq_ok_iff]
  constructor
  · rintro ⟨_, valid, same⟩
    exact ⟨valid, same.symm⟩
  · rintro ⟨valid, same⟩
    exact ⟨(), valid, same.symm⟩

theorem Settings.review_eq_error_iff {rejection : Rejection} :
    settings.review = .error rejection ↔
      settings.validate = .error rejection := by
  rw [Settings.review]
  cases settings.validate <;> constructor <;> intro same <;> cases same <;> rfl

/-- Whether a rejection names a field of settings that is not sound. -/
def Rejection.Blames (rejection : Rejection) (settings : Settings)
    (field : CheckedField) : Prop :=
  rejection.field = field.path ∧ ¬ field.Sound (field.get settings)

private theorem validate_eq_ok_iff_sound :
    settings.validate = .ok () ↔
      ∀ field : CheckedField, field.Sound (field.get settings) := by
  rw [Settings.validate_eq_run, Check.run_eq_ok_iff]
  constructor
  · intro passes field
    exact CheckedField.sound_get_iff.mpr fun check member _ =>
      passes check member
  · intro sound check member
    exact CheckedField.sound_get_iff.mp (sound check.field) check member rfl

theorem blames_of_validate {rejection : Rejection}
    (rejected : settings.validate = .error rejection) :
    ∃ guilty, rejection.Blames settings guilty := by
  rw [Settings.validate_eq_run] at rejected
  obtain ⟨check, member, named, fails⟩ := Check.run_eq_error rejected
  exact ⟨check.field, named, fun sound =>
    fails (CheckedField.sound_get_iff.mp sound check member rfl)⟩

/-- A field that was put right is not blamed, and a field that is blamed then was
as wrong before. -/
theorem blames_of_validate_put {field : CheckedField} {value : field.Value}
    (sound : field.Sound value) {later : Rejection}
    (rejected : (field.put settings value).validate = .error later) :
    ∃ other, later.Blames settings other ∧ other ≠ field := by
  obtain ⟨other, named, unsound⟩ := blames_of_validate rejected
  have differs : other ≠ field := by
    rintro rfl
    exact unsound (CheckedField.get_put_same.symm ▸ sound)
  rw [CheckedField.get_put_other differs] at unsound
  exact ⟨other, ⟨named, unsound⟩, differs⟩

/-- The checks tell no sound value of a field from another. -/
theorem Settings.validate_put {field : CheckedField} {value : field.Value}
    (soundBefore : field.Sound (field.get settings))
    (sound : field.Sound value) :
    (field.put settings value).validate = settings.validate := by
  rw [Settings.validate_eq_run, Settings.validate_eq_run]
  refine Check.run_congr fun check member => ?_
  by_cases isField : check.field = field
  · have before : check.Passes settings :=
      CheckedField.sound_get_iff.mp soundBefore check member isField
    have after : check.Passes (field.put settings value) :=
      CheckedField.sound_get_iff.mp (CheckedField.get_put_same.symm ▸ sound)
        check member isField
    exact after.trans before.symm
  · rw [CheckedField.get_put_other isField]

/-- Settings pass exactly if every field is sound, and only then there are warnings
about them. A rejection blames a field that is not; once that field holds any sound
value, the settings pass or another field is blamed that was not sound before. -/
theorem review_blames_unsound (settings : Settings) :
    (∀ warnings, settings.review = .ok warnings ↔
      (∀ field : CheckedField, field.Sound (field.get settings)) ∧
        warnings = settings.warnings) ∧
    ∀ rejection, settings.review = .error rejection →
      ∃ guilty, rejection.Blames settings guilty ∧
        ∀ value, guilty.Sound value →
          (∃ warnings, (guilty.put settings value).review = .ok warnings) ∨
          ∃ later other, (guilty.put settings value).review = .error later ∧
            later.Blames settings other ∧ later.field ≠ rejection.field := by
  constructor
  · intro warnings
    rw [Settings.review_eq_ok_iff, validate_eq_ok_iff_sound]
  · intro rejection rejected
    obtain ⟨guilty, blames⟩ :=
      blames_of_validate (Settings.review_eq_error_iff.mp rejected)
    refine ⟨guilty, blames, fun value sound => ?_⟩
    cases outcome : (guilty.put settings value).review with
    | ok warnings => exact .inl ⟨warnings, rfl⟩
    | error later =>
        obtain ⟨other, blamesOther, differs⟩ :=
          blames_of_validate_put sound (Settings.review_eq_error_iff.mp outcome)
        refine .inr ⟨later, other, rfl, blamesOther, ?_⟩
        rw [blamesOther.1, blames.1]
        exact mt CheckedField.path_injective differs

/-- Settings of which every field that is checked is wrong, the sampling values
as `nan` and negative zero. -/
def faultySettings : Settings where
  version := ""
  apiKey := ⟨""⟩
  baseUrl := ""
  retry := .standard
  defaults := ⟨"", some .nan, some (.zero true)⟩
  connection := ⟨0, 0⟩

theorem faultySettings_blamed_in_turn :
    faultySettings.review = .error ⟨"version", .missing⟩ ∧
      CheckedField.version.Sound supportedVersion ∧
      ∃ later other,
        (CheckedField.version.put faultySettings supportedVersion).review =
          .error later ∧
        later.Blames faultySettings other ∧ later.field ≠ "version" := by
  have plain (field : String) :
      Settings.rejectPlaceholder field "" = .ok () :=
    rejectPlaceholder_eq_ok_iff.mpr Placeholder.not_holdsPlaceholder_nil
  have rejected : faultySettings.review = .error ⟨"version", .missing⟩ := by
    rw [Settings.review_eq_error_iff, Settings.validate,
      show faultySettings.apiKey.value = "" from rfl,
      show faultySettings.baseUrl = "" from rfl, plain, plain]
    rfl
  refine ⟨rejected, rfl, ?_⟩
  obtain ⟨guilty, blames, putRight⟩ :=
    (review_blames_unsound faultySettings).2 _ rejected
  obtain rfl : CheckedField.version = guilty :=
    CheckedField.path_injective blames.1
  rcases putRight supportedVersion rfl with ⟨warnings, passes⟩ | blamed
  · have sound := ((review_blames_unsound _).1 warnings).mp passes
    exact absurd rfl (sound.1 .apiKey).2
  · exact blamed

end Parley.Config
