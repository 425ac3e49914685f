import Parley.Chat.Generation
import Parley.Config.Settings
import Parley.Proofs.Json.Float
import Parley.Proofs.Schema.Record
import Parley.Wire.Envelope

/-!
Contract: what is sent or stored is read back as it was.

Owns: the round trips of turns, prompts, envelopes, retry policies, timeouts and
answers, and what a request keeps of itself in its body.
-/

namespace Parley

open Parley.Numeric (Single)
open Parley.Schema (Codec Reader Record Written written_object written_text)

/-! ## Conversations -/

namespace Chat

open Parley.Json (InOrder Value nestingMembers)

theorem Role.roundTrips (role : Role) : Role.codec.RoundTrips 0 role :=
  Codec.enumeration_roundTrips (by cases role <;> rfl)

theorem Message.roundTrips (message : Message) :
    Message.codec.RoundTrips 1 message := by
  refine Record.reads_written (by decide) ?_
  refine .plain (Role.roundTrips _) (.plain (Codec.plainText_roundTrips _)
    (.sparse (by decide)
      (fun name _ => ⟨Codec.plainText_roundTrips name, written_text name⟩)
      (.nil ?_)))
  obtain ⟨role, content, name⟩ := message
  cases name <;> rfl

/-- Metadata is read in the order of its keys, in whichever it was written. -/
theorem Info.reads_written {written info : Info} (same : written.Perm info)
    (inOrder : InOrder info) (plain : ∀ member ∈ info, member.2.Plain) :
    Info.codec.toReader.Reads (nestingMembers info + 1) (.object written)
      info := by
  intro allowance enough rest separated
  obtain ⟨inner, rfl⟩ := Nat.exists_eq_add_one.mpr
    (Nat.lt_of_lt_of_le (Nat.succ_pos _) enough)
  have reads : ∀ member ∈ written,
      Json.ReadsAs (Json.readValue inner) member.2 member.2 := by
    intro member isWritten
    have isMember := same.mem_iff.mp isWritten
    exact Json.readValue_written (plain member isMember)
      (Nat.le_trans (Json.nesting_le_members isMember)
        (Nat.le_of_succ_le_succ enough))
  obtain ⟨inside, opened, isRead⟩ :=
    Json.readMembers_written reads same inOrder rest
  rw [opened]
  exact isRead

theorem Generation.reads_written {generation : Generation} {written : Info}
    (same : written.Perm generation.info) (inOrder : InOrder generation.info)
    (plain : ∀ member ∈ generation.info, member.2.Plain) :
    Generation.codec.toReader.Reads (nestingMembers generation.info + 2)
      (Generation.codec.write { generation with info := written })
      generation := by
  have depth : 1 ≤ nestingMembers generation.info + 1 := Nat.succ_pos _
  refine Record.reads_written (by decide) ?_
  refine .plain ((Codec.plainText_roundTrips _).mono (Nat.zero_le _))
    (.sparse (by decide)
      (fun message _ =>
        ⟨(Message.roundTrips message).mono depth, written_object _⟩) ?_)
  obtain ⟨text, message, info⟩ := generation
  cases written with
  | nil =>
      have noInfo : info = [] := List.nil_perm.mp same
      subst noInfo
      refine .absent rfl (by decide) (.nil ?_)
      cases message <;> rfl
  | cons member members =>
      have reads := (Info.reads_written same inOrder plain).map
        fun info (generation : Generation) => { generation with info }
      refine .written rfl reads (.nil ?_)
      cases message <;> rfl

/-- The metadata of an answer nests less deep than the answer. -/
theorem Generation.nesting_lt (generation : Generation) :
    nestingMembers generation.info + 2 ≤
      max 2 (Generation.codec.write generation).nesting := by
  obtain ⟨text, message, info⟩ := generation
  cases info with
  | nil => exact Nat.le_max_left _ _
  | cons member members =>
      refine Nat.le_trans ?_ (Nat.le_max_right _ _)
      have isWritten : ("generation_info", Value.object (member :: members)) ∈
          Generation.record.writeMembers ⟨text, message, member :: members⟩ :=
        List.mem_filterMap.mpr ⟨_, List.mem_cons_of_mem _
          (List.mem_cons_of_mem _ List.mem_cons_self), rfl⟩
      exact Nat.succ_le_succ (Json.nesting_le_members isWritten)

end Chat

/-! ## Envelopes -/

namespace Wire

theorem Role.roundTrips (role : Role) : Role.codec.RoundTrips 0 role :=
  Codec.enumeration_roundTrips (by cases role <;> rfl)

theorem Turn.roundTrips (turn : Turn) : Turn.codec.RoundTrips 1 turn :=
  Record.reads_written (by decide) (.plain (Role.roundTrips _)
    (.plain (Codec.plainText_roundTrips _) (.nil rfl)))

theorem Usage.roundTrips (usage : Usage) : Usage.codec.RoundTrips 1 usage :=
  Record.reads_written (by decide) (.plain (Codec.u64_roundTrips _)
    (.plain (Codec.u64_roundTrips _) (.plain (Codec.u64_roundTrips _)
      (.nil rfl))))

theorem Choice.roundTrips (choice : Choice) :
    Choice.codec.RoundTrips 1 choice := by
  refine Record.reads_written (by decide) ?_
  refine .sparse (by decide)
    (fun role _ => ⟨Codec.plainText_roundTrips role, written_text role⟩)
    (.plain (Codec.plainText_roundTrips _) (.nil ?_))
  obtain ⟨role, content⟩ := choice
  cases role <;> rfl

theorem Answer.roundTrips (answer : Answer) :
    Answer.codec.RoundTrips 3 answer := by
  have text (held : String) : Codec.plainText.RoundTrips 2 held :=
    (Codec.plainText_roundTrips held).mono (Nat.zero_le 2)
  have choices : (Codec.list Choice.codec).RoundTrips 2 answer.choices :=
    Codec.list_roundTrips fun choice _ => Choice.roundTrips choice
  have usage : Usage.codec.RoundTrips 2 answer.usage :=
    (Usage.roundTrips answer.usage).mono (by decide)
  refine Record.reads_written (by decide) ?_
  refine .sparse (by decide) (fun held _ => ⟨text held, written_text held⟩)
    (.sparse (by decide) (fun held _ => ⟨text held, written_text held⟩)
      (.sparse (by decide) (fun held _ => ⟨text held, written_text held⟩)
        (.plain choices (.plain usage (.nil ?_)))))
  obtain ⟨requestId, taskId, taskStatus, choices, usage⟩ := answer
  cases requestId <;> cases taskId <;> cases taskStatus <;> rfl

theorem Envelope.roundTrips (envelope : Envelope) :
    Envelope.codec.RoundTrips 4 envelope := by
  have code := (Codec.i64_roundTrips envelope.code).mono (Nat.zero_le 3)
  have msg := (Codec.plainText_roundTrips envelope.msg).mono (Nat.zero_le 3)
  have success := (Codec.boolean_roundTrips envelope.success).mono
    (Nat.zero_le 3)
  refine Record.reads_written (by decide) ?_
  refine .plain code (.plain msg (.plain success (.sparse (by decide)
    (fun answer _ => ⟨Answer.roundTrips answer, written_object _⟩) (.nil ?_))))
  obtain ⟨code, msg, success, data⟩ := envelope
  cases data <;> rfl

end Wire

/-! ## Policies and timeouts -/

theorem Retry.Policy.roundTrips (policy : Retry.Policy) :
    Retry.Policy.codec.RoundTrips 1 policy :=
  Record.reads_written (by decide) (.plain (Codec.u32_roundTrips _)
    (.plain (Codec.u64_roundTrips _) (.nil rfl)))

theorem Config.Connection.roundTrips (connection : Config.Connection) :
    Config.Connection.codec.RoundTrips 1 connection :=
  Record.reads_written (by decide) (.plain (Codec.u64_roundTrips _)
    (.plain (Codec.u64_roundTrips _) (.nil rfl)))

/-! ## Requests -/

/-- The text of a finite number of 32 bits is read as a number. -/
theorem readScalar?_single {value : Single} (finite : value.isFinite = true) :
    ∃ number, ∀ rest, Json.Separated rest →
      Json.readScalar? ((Json.Value.number (.single value)).write ++ rest) =
        some (.ok (.number number, rest)) := by
  obtain ⟨numeral, spelled, inRange, _⟩ := Json.single_numeral finite
  obtain ⟨number, isNumber⟩ := Option.isSome_iff_exists.mp inRange
  refine ⟨number, fun rest separated => ?_⟩
  show Json.readScalar? (Json.Number.write (.single value) ++ rest) = _
  rw [spelled]
  exact Json.readScalar?_spelled isNumber separated

private theorem written_single {value : Single}
    (finite : value.isFinite = true) :
    Written (.number (.single value)) := by
  obtain ⟨numeral, spelled, _⟩ := Json.single_numeral finite
  obtain ⟨first, more, opened, starts⟩ := numeral.spelled_head
  intro rest same
  have first : first = 'n' := by
    have written := (spelled.trans opened).symm.trans same
    exact (List.cons.inj written).1
  rw [first] at starts
  exact absurd starts (by decide)

/-- Numbers that JSON has no digits for are written as the empty value. -/
theorem write_of_not_finite {value : Single}
    (notFinite : value.isFinite = false) :
    (Json.Value.number (.single value)).write = ['n', 'u', 'l', 'l'] := by
  cases value with
  | nan => rfl
  | signed negative rank =>
      have infinite : rank.val = Numeric.single.infinityRank := by
        have bound := rank.isLt
        have notBelow := of_decide_eq_false notFinite
        omega
      show (Numeric.Binary.write Json.singleLayout _).toList = _
      unfold Numeric.Binary.write
      dsimp only
      rw [if_pos infinite]
      cases negative <;> rfl

private theorem singleType_accepts (number : Json.Number) :
    ∃ value, Schema.singleType.accept (Json.Value.number number).found =
      .ok value := by
  cases number <;> exact ⟨_, rfl⟩

/-- A sampling value is read as none exactly if JSON has no digits for it. -/
theorem sampling_reads (value : Single) :
    ∃ read : Option Single,
      (Codec.optional .single).toReader.Reads 0 (.number (.single value))
        read ∧ (read = none ↔ value.isFinite = false) := by
  cases finite : value.isFinite with
  | false =>
      exact ⟨none, Reader.optional_reads_none _ (write_of_not_finite finite),
        fun _ => rfl, fun _ => rfl⟩
  | true =>
      obtain ⟨number, isRead⟩ := readScalar?_single finite
      obtain ⟨read, accepted⟩ := singleType_accepts number
      refine ⟨some read, Reader.Reads.optional
        (Schema.ScalarType.reads isRead accepted) (written_single finite), ?_⟩
      constructor
      · intro absent
        cases absent
      · intro absent
        cases absent

namespace Wire

/-- Whether an optional sampling value is set to a number that JSON has digits
for. -/
def Sampled (value : Option Single) : Prop :=
  ∃ held, value = some held ∧ held.isFinite = true

/-- What is read back of an optional sampling value. -/
theorem sampling_restored {σ : Type} {key : String}
    (get : σ → Option Single) {set : Option Single → σ → σ} (value : σ)
    (depth : Nat) :
    ∃ read : Option Single, (read.isSome ↔ Sampled (get value)) ∧
      ∀ {members : List (Schema.Member σ)} {part last : σ},
        Schema.Restored depth value members
          (if (get value).isSome then set read part else part) last →
        Schema.Restored depth value
          (.sparse key .nullable .single get set :: members) part last := by
  cases held : get value with
  | none =>
      refine ⟨none, ?_, fun others => .absent ?_
        (show Schema.Absence.nullable ≠ .required by decide) others⟩
      · constructor
        · intro absent
          cases absent
        · rintro ⟨_, absent, _⟩
          cases absent
      · show (get value).map Codec.single.write = none
        rw [held]
        rfl
  | some sampling =>
      obtain ⟨read, reads, isNone⟩ := sampling_reads sampling
      refine ⟨read, ?_, fun others =>
        .written ?_ ((reads.mono (Nat.zero_le depth)).map set) others⟩
      · rw [Option.isSome_iff_ne_none, Ne, isNone, Bool.not_eq_false]
        constructor
        · intro finite
          exact ⟨sampling, rfl, finite⟩
        · rintro ⟨_, same, finite⟩
          rwa [Option.some.inj same]
      · show (get value).map Codec.single.write = _
        rw [held]
        rfl

/-- What is read of the body of a request. -/
theorem Request.reads_written (request : Request) :
    ∃ read : Request,
      Request.codec.toReader.Reads 3 (Request.codec.write request) read ∧
        read.model = "" ∧ read.prompt = request.prompt ∧
        (read.temperature.isSome ↔ Sampled request.temperature) ∧
        (read.topP.isSome ↔ Sampled request.topP) := by
  obtain ⟨temperature, isTemperature, temperatureRestored⟩ :=
    sampling_restored Request.temperature request 2
  obtain ⟨topP, isTopP, topPRestored⟩ :=
    sampling_restored Request.topP request 2
  have prompt : (Codec.list Turn.codec).RoundTrips 2 request.prompt :=
    Codec.list_roundTrips fun turn _ => Turn.roundTrips turn
  refine ⟨⟨"", temperature, topP, request.prompt⟩,
    Record.reads_written (by decide) (temperatureRestored
      (topPRestored (.plain prompt (.nil ?_)))),
    rfl, rfl, isTemperature, isTopP⟩
  have unset {value read : Option Single} (same : read.isSome ↔ Sampled value)
      (isNone : value = none) : read = none := by
    rw [← Option.not_isSome_iff_eq_none, same]
    rintro ⟨_, isSome, _⟩
    rw [isNone] at isSome
    cases isSome
  obtain ⟨model, ownTemperature, ownTopP, turns⟩ := request
  cases ownTemperature with
  | none =>
      cases unset isTemperature rfl
      cases ownTopP with
      | none =>
          cases unset isTopP rfl
          rfl
      | some held => rfl
  | some held =>
      cases ownTopP with
      | none =>
          cases unset isTopP rfl
          rfl
      | some other => rfl

end Wire

/-! ## Whole texts -/

/-- Everything that is written for storage or for the service is read back:
turns, prompts, envelopes, retry policies and timeouts as they were, and answers
whose metadata holds no floating-point numbers and nests no deeper than may be
read, in whatever order their metadata was written. A request comes back with its
prompt, without its model, and with the sampling values that JSON has digits
for. -/
theorem formats_read_back :
    (∀ message : Chat.Message,
        Chat.Message.codec.parse (Chat.Message.codec.toText message) =
          .ok message) ∧
      (∀ turn : Wire.Turn,
        Wire.Turn.codec.parse (Wire.Turn.codec.toText turn) = .ok turn) ∧
      (∀ envelope : Wire.Envelope,
        Wire.Envelope.codec.parse (Wire.Envelope.codec.toText envelope) =
          .ok envelope) ∧
      (∀ policy : Retry.Policy,
        Retry.Policy.codec.parse (Retry.Policy.codec.toText policy) =
          .ok policy) ∧
      (∀ connection : Config.Connection,
        Config.Connection.codec.parse
          (Config.Connection.codec.toText connection) = .ok connection) ∧
      (∀ (generation : Chat.Generation) (written : Chat.Info),
        written.Perm generation.info → Json.InOrder generation.info →
        (∀ member ∈ generation.info, member.2.Plain) →
        (Chat.Generation.codec.write generation).nesting ≤ Json.depthLimit →
        Chat.Generation.codec.parse (Chat.Generation.codec.toText
          { generation with info := written }) = .ok generation) ∧
      ∀ request : Wire.Request, ∃ read : Wire.Request,
        Wire.Request.codec.parse request.body = .ok read ∧
          read.model = "" ∧ read.prompt = request.prompt ∧
          (read.temperature.isSome ↔ Wire.Sampled request.temperature) ∧
          (read.topP.isSome ↔ Wire.Sampled request.topP) := by
  refine ⟨fun message => ?_, fun turn => ?_, fun envelope => ?_,
    fun policy => ?_, fun connection => ?_,
    fun generation written same inOrder plain shallow => ?_, fun request => ?_⟩
  · exact Codec.parse_toText (Chat.Message.roundTrips message) (by decide)
  · exact Codec.parse_toText (Wire.Turn.roundTrips turn) (by decide)
  · exact Codec.parse_toText (Wire.Envelope.roundTrips envelope) (by decide)
  · exact Codec.parse_toText (Retry.Policy.roundTrips policy) (by decide)
  · exact Codec.parse_toText (Config.Connection.roundTrips connection)
      (by decide)
  · have depth := generation.nesting_lt
    have limit : Json.depthLimit = 127 := rfl
    exact Codec.parse_toText
      (Chat.Generation.reads_written same inOrder plain) (by omega)
  · obtain ⟨read, reads, kept⟩ := request.reads_written
    exact ⟨read, Codec.parse_toText reads (by decide), kept⟩

/-- An answer whose metadata nests, with the counts of its tokens. -/
def answeredGeneration : Chat.Generation :=
  ⟨"hi", some ⟨.assistant, "hi", some "glm"⟩,
    [("id", .text "7"),
      ("usage", .object [("cached", .null), ("total", .number (.integer 3))])]⟩

private theorem answeredGeneration_plain :
    ∀ member ∈ answeredGeneration.info, member.2.Plain := by
  have usage : (Json.Value.object
      [("cached", .null), ("total", .number (.integer 3))]).Plain := by
    refine .object (by decide) (List.forall_mem_cons.mpr ⟨.null, ?_⟩)
    exact List.forall_mem_singleton.mpr (.integer (.inl rfl))
  exact List.forall_mem_cons.mpr
    ⟨.text "7", List.forall_mem_singleton.mpr usage⟩

/-- The metadata of an answer may be written in another order. -/
theorem answeredGeneration_reads_back :
    answeredGeneration.info.reverse.Perm answeredGeneration.info ∧
      Json.InOrder answeredGeneration.info ∧
      (∀ member ∈ answeredGeneration.info, member.2.Plain) ∧
      (Chat.Generation.codec.write answeredGeneration).nesting ≤
        Json.depthLimit ∧
      Chat.Generation.codec.parse (Chat.Generation.codec.toText
        { answeredGeneration with info := answeredGeneration.info.reverse }) =
        .ok answeredGeneration := by
  have same : answeredGeneration.info.reverse.Perm answeredGeneration.info :=
    List.reverse_perm _
  have inOrder : Json.InOrder answeredGeneration.info := by decide
  have plain := answeredGeneration_plain
  have shallow : (Chat.Generation.codec.write answeredGeneration).nesting ≤
      Json.depthLimit := by
    decide
  obtain ⟨_, _, _, _, _, generations, _⟩ := formats_read_back
  exact ⟨same, inOrder, plain, shallow,
    generations answeredGeneration _ same inOrder plain shallow⟩

end Parley
