import Parley.Proofs.Config.Texts
import Parley.Proofs.Json.Float
import Parley.Proofs.Session.Confinement
import Parley.Proofs.Session.Surroundings

/-!
Contract: a client with settings that were loaded sends admissible requests only.

An option of a call replaces a parameter only by an admissible one, so every
request of a client is admissible if the parameters of the client are. The body
of such a request holds a number strictly between zero and one for each sampling
value that is set.

Owns: `Request.Admissible`, `Request.SpellsSampling`, and which requests a client
sends.
-/

namespace Parley

open Parley.Json (Numeral)
open Parley.Numeric (Double Single)

/-! ## Admissible requests -/

namespace Wire

/-- The values strictly between zero and one. -/
def Inside (value : Single) : Prop :=
  ∃ rank, value = .signed false rank ∧ 0 < Numeric.single.units rank.val ∧
    Numeric.single.units rank.val < Numeric.single.one

/-- The requests that the service may be sent. -/
structure Request.Admissible (request : Request) : Prop where
  model : request.model ≠ ""
  temperature : ∀ value, request.temperature = some value → Inside value
  topP : ∀ value, request.topP = some value → Inside value

/-- The relation between a sampling value and the number in a body that stands
for it, which lies strictly between zero and one. -/
inductive SpelledInside : Option Single → Option Numeral → Prop where
  | unset : SpelledInside none none
  | set {value : Single} {numeral : Numeral}
      (spelled : Json.Number.write (.single value) = numeral.spelled)
      (positive : 0 < numeral.exact) (belowOne : numeral.exact < 1) :
      SpelledInside (some value) (some numeral)

/-- The member of a body that holds a sampling value, with the comma behind it. -/
def samplingMember (key : String) : Option (List Char) → List Char
  | none => []
  | some text => Json.writeText key ++ ':' :: (text ++ [','])

/-- The body with these texts of its sampling values. -/
def bodyWith (temperature topP : Option (List Char)) (prompt : List Turn) :
    List Char :=
  '\x7b' :: (samplingMember "temperature" temperature ++
    samplingMember "top_p" topP ++ Json.writeText "prompt" ++
    ':' :: (((Schema.Codec.list Turn.codec).write prompt).write ++ ['\x7d']))

/-- Whether each sampling value of a request is in its body exactly if it is set,
as a number strictly between zero and one. -/
def Request.SpellsSampling (request : Request) : Prop :=
  ∃ temperature topP, SpelledInside request.temperature temperature ∧
    SpelledInside request.topP topP ∧
    request.body.toList =
      bodyWith (temperature.map Numeral.spelled) (topP.map Numeral.spelled)
        request.prompt

theorem insideUnit_iff {value : Single} :
    value.insideUnit = true ↔ Inside value := by
  constructor
  · intro inside
    cases value with
    | nan => cases inside
    | signed negative rank =>
        cases negative with
        | true => cases inside
        | false =>
            obtain ⟨above, below⟩ := Bool.and_eq_true_iff.mp inside
            exact ⟨rank, rfl, of_decide_eq_true above, of_decide_eq_true below⟩
  · rintro ⟨rank, rfl, above, below⟩
    exact Bool.and_eq_true_iff.mpr
      ⟨decide_eq_true above, decide_eq_true below⟩

theorem Inside.isFinite {value : Single} (inside : Inside value) :
    value.isFinite = true := by
  obtain ⟨rank, rfl, _, below⟩ := inside
  have aboveOne : Numeric.single.one <
      Numeric.single.units Numeric.single.infinityRank := by
    decide +kernel
  refine decide_eq_true (Nat.lt_of_le_of_ne
    (Nat.le_of_lt_succ rank.isLt) ?_)
  intro infinite
  rw [infinite] at below
  exact Nat.lt_asymm below aboveOne

/-- An admissible sampling value is written as a number strictly between zero and
one, or not at all. -/
theorem spelledInside {value : Option Single}
    (admissible : ∀ held, value = some held → Inside held) :
    ∃ numeral, SpelledInside value numeral := by
  cases value with
  | none => exact ⟨none, .unset⟩
  | some held =>
      have inside := admissible held rfl
      obtain ⟨numeral, spelled, _, between⟩ :=
        Json.single_numeral inside.isFinite
      obtain ⟨positive, belowOne⟩ := between (insideUnit_iff.mpr inside)
      exact ⟨some numeral, .set spelled positive belowOne⟩

theorem SpelledInside.spelled_eq {value : Option Single}
    {numeral : Option Numeral} (inside : SpelledInside value numeral) :
    numeral.map Numeral.spelled =
      value.map fun held => Json.Number.write (.single held) := by
  cases inside with
  | unset => rfl
  | set spelled => exact congrArg some spelled.symm

private theorem Request.body_toList (request : Request) :
    request.body.toList =
      bodyWith (request.temperature.map fun held => Json.Number.write (.single held))
        (request.topP.map fun held => Json.Number.write (.single held))
        request.prompt := by
  rw [Request.body, Schema.Codec.toText, Json.Value.toText,
    String.toList_ofList, bodyWith]
  obtain ⟨model, temperature, topP, prompt⟩ := request
  cases temperature <;> cases topP <;>
    simp only [Option.map_none, Option.map_some, samplingMember,
      List.nil_append, List.append_assoc, List.cons_append] <;>
    rfl

private theorem Request.Admissible.spellsSampling {request : Request}
    (admissible : request.Admissible) : request.SpellsSampling := by
  obtain ⟨temperature, isTemperature⟩ := spelledInside admissible.temperature
  obtain ⟨topP, isTopP⟩ := spelledInside admissible.topP
  refine ⟨temperature, topP, isTemperature, isTopP, ?_⟩
  rw [isTemperature.spelled_eq, isTopP.spelled_eq, request.body_toList]

end Wire

/-! ## Overrides -/

namespace Provider

open Parley.Wire (Inside Request)

private theorem samplingOverride_inside {value : Option Double} {held : Single}
    (overrides : samplingOverride value = some held) : Inside held :=
  Wire.insideUnit_iff.mp (Option.filter_eq_some_iff.mp overrides).2

theorem or_inside {value : Option Double} {default : Option Single}
    (admissible : ∀ held, default = some held → Inside held) :
    ∀ held, (samplingOverride value).or default = some held → Inside held := by
  intro held isHeld
  rcases Option.or_eq_some_iff.mp isHeld with overrides | ⟨_, isDefault⟩
  · exact samplingOverride_inside overrides
  · exact admissible held isDefault

/-- The request of a call is admissible if the defaults are, whatever the call
overrides. -/
theorem toRequest_admissible {defaults : Request}
    (admissible : defaults.Admissible) (options : CallOptions)
    (messages : List Chat.Message) :
    (toRequest defaults options messages).Admissible where
  model := by
    show (modelOverride options.model).getD defaults.model ≠ ""
    cases overrides : modelOverride options.model with
    | none => exact admissible.model
    | some name =>
        have named := (Option.filter_eq_some_iff.mp overrides).2
        exact Config.not_isEmpty_iff.mp named
  temperature := or_inside admissible.temperature
  topP := or_inside admissible.topP

end Provider

/-! ## Clients -/

namespace Session

open Parley.Wire (Request)
open Program (Confined)

/-- Whether an effect sends no request but admissible ones. -/
def Effect.SendsAdmissible : Effect → Prop
  | .invoke request => request.Admissible
  | .openStream request => request.Admissible
  | _ => True

private theorem Effect.Serves.sendsAdmissible {request : Request}
    {effect : Effect}
    (serves : effect.Serves request) (admissible : request.Admissible) :
    effect.SendsAdmissible := by
  cases effect with
  | invoke sent =>
      rw [show sent = request from serves]
      exact admissible
  | openStream sent =>
      rw [show sent = request from serves]
      exact admissible
  | _ => trivial

private theorem Exchange.admissible_of_requested {request : Request}
    {exchange : Exchange} (sends : exchange.effect.SendsAdmissible)
    (isSent : exchange.requested? = some request) : request.Admissible := by
  obtain ⟨effect, answer⟩ := exchange
  cases effect with
  | invoke sent =>
      cases isSent
      exact sends
  | openStream sent =>
      cases isSent
      exact sends
  | connect | awaitItem | deliver | drawJitter | sleep | log => cases isSent

namespace Client

variable {client : Client} (options : Provider.CallOptions) (streaming : Bool)

private theorem answer_sendsAdmissible (defaults : client.defaults.Admissible)
    (messages : List Chat.Message) :
    Confined Effect.SendsAdmissible
      (client.answer options streaming messages) := by
  refine .loggedAll _ (fun _ => trivial) ?_
  split
  · exact .done _ trivial
  · refine .perform trivial fun opened _ => ?_
    have admissible := Provider.toRequest_admissible defaults options messages
    exact (client.connected_serves streaming _ opened).mono
      (fun _ serves => serves.sendsAdmissible admissible) fun _ _ => trivial

private theorem answerAll_sendsAdmissible
    (defaults : client.defaults.Admissible)
    (sets : List (List Chat.Message)) :
    Confined Effect.SendsAdmissible
      (client.answerAll options streaming sets) := by
  induction sets with
  | nil => exact .done _ trivial
  | cons messages sets inductionHypothesis =>
      refine .andThen (answer_sendsAdmissible options streaming defaults messages)
        (fun _ _ => trivial) fun _ _ => ?_
      exact .andThen inductionHypothesis (fun _ _ => trivial)
        fun _ _ => .done _ trivial

theorem generate_sendsAdmissible (defaults : client.defaults.Admissible)
    (sets : List (List Chat.Message)) :
    Confined Effect.SendsAdmissible
      (client.generate options streaming sets) := by
  unfold generate
  split
  · exact .done _ trivial
  · exact .loggedAll _ (fun _ => trivial)
      (answerAll_sendsAdmissible options streaming defaults sets)

private theorem call_sendsAdmissible (defaults : client.defaults.Admissible)
    (messages : List Chat.Message) :
    Confined Effect.SendsAdmissible
      (client.call options streaming messages) := by
  refine .andThen
    (generate_sendsAdmissible options streaming defaults [messages])
    (fun _ _ => trivial) ?_
  rintro (_ | ⟨generation, _⟩) _
  · exact .done _ trivial
  · exact .done _ trivial

end Client

theorem inside_of_isAdmissible {value : Option Single}
    (admissible : Config.isAdmissible value = true) :
    ∀ held, value = some held → Wire.Inside held := by
  intro held isHeld
  rw [isHeld] at admissible
  exact Wire.insideUnit_iff.mp admissible

/-- The parameters of a client with admissible settings are admissible. -/
theorem Client.ofSettings_admissible {settings : Config.Settings}
    (admissible : settings.Admissible) :
    (Client.ofSettings settings).defaults.Admissible where
  model := admissible.model
  temperature := inside_of_isAdmissible admissible.temperature
  topP := inside_of_isAdmissible admissible.topP

/-- Settings that were loaded are admissible, and so is every request that a
client with these settings sends, whatever its calls override and however they
are answered. Each such request holds a number strictly between zero and one for
each sampling value that is set. -/
theorem load_gives_admissible_requests {format : Config.Format} {path : String}
    {source : Config.Source} {environment : Config.Placeholder.Environment}
    {settings : Config.Settings} {warnings : List Log.Entry}
    (loaded : Config.load format path source environment =
      .ok (settings, warnings)) :
    settings.version = Config.supportedVersion ∧ settings.apiKey.value ≠ "" ∧
      Config.IsBaseUrl settings.baseUrl ∧
      0 < settings.connection.connectTimeoutMs ∧
      0 < settings.connection.requestTimeoutMs ∧
      ∀ {σ : Type} (handler : Handler σ) (state : σ)
        (options : Provider.CallOptions) (streaming : Bool)
        (exchange : Exchange) (request : Request),
        ((∃ sets, exchange ∈ ((Client.ofSettings settings).generate options
            streaming sets).trace handler state) ∨
          ∃ messages, exchange ∈ ((Client.ofSettings settings).call options
            streaming messages).trace handler state) →
        exchange.requested? = some request →
        request.Admissible ∧ request.SpellsSampling := by
  obtain ⟨_, _, _, _, _, _, _, admissible, _⟩ :=
    Config.load_eq_ok_iff.mp loaded
  refine ⟨admissible.version, admissible.apiKey, admissible.baseUrl,
    admissible.connectTimeout, admissible.requestTimeout, ?_⟩
  intro σ handler state options streaming exchange request performed isSent
  have defaults := Client.ofSettings_admissible admissible
  have sends : exchange.effect.SendsAdmissible := by
    rcases performed with ⟨sets, member⟩ | ⟨messages, member⟩
    · exact (Client.generate_sendsAdmissible options streaming defaults
        sets).of_mem_trace (fun _ _ => trivial) member
    · exact (Client.call_sendsAdmissible options streaming defaults
        messages).of_mem_trace (fun _ _ => trivial) member
  have isAdmissible := Exchange.admissible_of_requested sends isSent
  exact ⟨isAdmissible, isAdmissible.spellsSampling⟩

/-- A call that overrides the model by no name, the temperature by no number and
the nucleus probability by a quarter. -/
def oddOptions : Provider.CallOptions :=
  ⟨some "", some .nan, some (.ofRatio false 1 4)⟩

/-- The request of a greeting with these options. -/
def oddRequest : Request :=
  Provider.toRequest
    (Client.ofSettings (Config.localSettings "a.b" "glm")).defaults oddOptions
    [.user "hi"]

/-- Of odd overrides only the usable one reaches the service. -/
theorem oddRequest_admissible :
    Config.load .json "c.json"
        (.file (Text.Utf8.encode (Config.localText "a.b" "glm")))
        (fun _ => none) =
      .ok (Config.localSettings "a.b" "glm",
        (Config.localSettings "a.b" "glm").warnings) ∧
      oddRequest.model = "glm" ∧
      oddRequest.temperature = some Wire.defaultTemperature ∧
      oddRequest.topP = some (.ofRatio false 1 4) ∧
      oddRequest.Admissible ∧ oddRequest.SpellsSampling := by
  have isText : Config.expand (fun _ => none) (Config.localText "a.b" "glm") =
      .ok (Config.localText "a.b" "glm") := by
    decide +kernel
  have isExpanded : (Config.localSettings "a.b" "glm").expand
      (fun _ => none) = .ok (Config.localSettings "a.b" "glm") := by
    decide +kernel
  have loaded := Config.load_localText isText isExpanded (by decide +kernel)
  obtain ⟨_, _, _, _, _, sends⟩ := load_gives_admissible_requests loaded
  have performed : (⟨.openStream oddRequest, .ready (.ok [])⟩ : Exchange) ∈
      acceptingAll.trace ((Client.ofSettings
        (Config.localSettings "a.b" "glm")).generate oddOptions true
          [[.user "hi"]]) () :=
    List.mem_cons_of_mem _ List.mem_cons_self
  exact ⟨loaded, rfl, by decide +kernel, by decide +kernel,
    sends acceptingAll.handler () oddOptions true _ oddRequest
      (.inl ⟨_, performed⟩) rfl⟩

end Session

end Parley
