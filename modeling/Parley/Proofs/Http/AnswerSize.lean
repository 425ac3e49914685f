import Parley.Http.Exchange
import Parley.Proofs.Formats
import Parley.Proofs.Http.Response
import Parley.Proofs.Json.Grammar
import Parley.Proofs.Text.Ascii

/-!
Contract: how long the answer to a call may be.

An answer that is not coded and whose length is announced is refused beyond the
limit before any of it is read. The length of an answer that is coded, or that
ends with its last chunk or with the connection, is not known before it was read,
and then nobody asks for it: an envelope is taken from such an answer with any
number of blanks behind it.

Owns: `Delivery.Limits`, `Delivery.IsOpenEnded`, which deliveries limit the size
of answers, `paddedAnswer`, and a long answer that is taken.
-/

namespace Parley.Http

open Parley.Coding (Gzip.pack)
open Parley.Json (Blanks)
open Parley.Schema (Codec)
open Parley.Text (Bytes Utf8.encode Utf8.decodeLossy_encode)
open Parley.Wire (Envelope)

/-- What tells the end of a body: its announced length, its last chunk, nothing
because that chunk is missing, or the end of the connection. -/
inductive EndMark where
  | length
  | lastChunk
  | missing
  | closing
deriving DecidableEq, Repr

def Framing.endMark : Framing → EndMark
  | .sized _ => .length
  | .chunked true => .lastChunk
  | .chunked false => .missing
  | .untilClose => .closing

/-- How an answer comes: what tells its end, and whether it is coded. -/
structure Delivery where
  endMark : EndMark
  coded : Bool
deriving DecidableEq, Repr

def Response.delivery (response : Response) : Delivery :=
  ⟨response.framing.endMark, response.isCoded⟩

namespace Delivery

/-- Whether all of an answer can arrive although its length was not known. -/
def IsOpenEnded : Delivery → Prop
  | ⟨.length, coded⟩ => coded = true
  | ⟨.missing, _⟩ => False
  | ⟨.lastChunk, _⟩ | ⟨.closing, _⟩ => True

/-- Whether answers that come so are refused if they are longer than the limit. -/
def Limits (delivery : Delivery) : Prop :=
  ∀ (id : RequestId) (model : String) (response : Response),
    response.delivery = delivery → response.status.isSuccess = true →
      sizeLimit < response.body.1.flatten.length →
        ∃ report, single id model (.ok response) = .error report

end Delivery

/-! ## Announced lengths -/

theorem single_of_success {response : Response}
    (succeeds : response.status.isSuccess = true) (id : RequestId)
    (model : String) :
    single id model (.ok response) = envelopeOf id response := by
  rw [single, accept, if_pos succeeds]

/-- An answer with too great an announced length is refused, whatever its body
is, unless it is coded. -/
theorem single_refuses_announced {response : Response} {length : Nat}
    (uncoded : response.isCoded = false)
    (sized : response.framing = .sized length)
    (hasBody : response.status.hasBody = true) (long : sizeLimit < length)
    (succeeds : response.status.isSuccess = true) (id : RequestId)
    (model : String) :
    single id model (.ok response) =
      .error ⟨[], .network ("Response size " ++ toString length ++
        " exceeds maximum " ++ toString sizeLimit ++ id.tag)⟩ := by
  have known : response.knownLength? = some length := by
    rw [Response.knownLength?, sized,
      if_neg (by rw [uncoded]; exact Bool.false_ne_true),
      if_neg (by rw [hasBody]; decide)]
  rw [single_of_success succeeds, envelopeOf, known, Option.filter_some,
    if_pos (decide_eq_true long)]

/-- An answer of which not all arrives is refused. -/
theorem single_refuses_early {response : Response}
    (early : response.body.2 ≠ .complete)
    (succeeds : response.status.isSuccess = true) (id : RequestId)
    (model : String) :
    ∃ report, single id model (.ok response) = .error report := by
  rw [single_of_success succeeds, envelopeOf, Response.text?_eq_none early]
  split
  · exact ⟨_, rfl⟩
  · exact ⟨_, rfl⟩

private theorem Delivery.limits_of_not_isOpenEnded {delivery : Delivery}
    (closed : ¬ delivery.IsOpenEnded) : delivery.Limits := by
  rintro id model response rfl succeeds long
  have hasBody : response.status.hasBody = true :=
    Response.hasBody_of_length_pos (Nat.zero_lt_of_lt long)
  have comes : response.delivery = ⟨response.framing.endMark, response.isCoded⟩ :=
    rfl
  cases framing : response.framing with
  | sized length =>
      have uncoded : response.isCoded = false := by
        rw [comes, framing] at closed
        exact Bool.eq_false_iff.mpr closed
      rw [Response.body_of_uncoded uncoded] at long
      have announced : sizeLimit < length :=
        Nat.lt_of_lt_of_le long (Response.length_transfer_le framing)
      exact ⟨_, single_refuses_announced uncoded framing hasBody announced
        succeeds id model⟩
  | chunked finished =>
      cases finished with
      | false =>
          exact single_refuses_early (Response.body_early framing hasBody)
            succeeds id model
      | true =>
          rw [comes, framing] at closed
          exact absurd trivial closed
  | untilClose =>
      rw [comes, framing] at closed
      exact absurd trivial closed

/-! ## Unknown lengths -/

/-- What a codec writes is read with blanks behind it. -/
theorem parse_before_blanks {α : Type} {codec : Codec α} {depth : Nat}
    {value : α} (roundTrips : codec.RoundTrips depth value)
    (shallow : depth ≤ Json.depthLimit) {blanks : List Char}
    (areBlanks : Blanks blanks) :
    codec.parse (codec.toText value ++ String.ofList blanks) = .ok value := by
  have separated : Json.Separated blanks := by
    rw [← List.append_nil blanks]
    exact Json.Separated.behind areBlanks trivial
  have isRead := roundTrips Json.depthLimit shallow blanks separated
  have closed := Json.closeText_eq_ok_iff.mpr ⟨blanks, isRead, areBlanks⟩
  rw [Codec.parse, Codec.toText, Json.Value.toText, String.toList_append,
    String.toList_ofList, String.toList_ofList, closed]
  rfl

/-- The text of an envelope with blanks behind it. -/
def paddedText (envelope : Envelope) (count : Nat) : String :=
  Envelope.codec.toText envelope ++ String.ofList (List.replicate count ' ')

/-- The bytes that are sent for a body. -/
def Delivery.sent (delivery : Delivery) (body : Bytes) : Bytes :=
  if delivery.coded then Gzip.pack body else body

def Delivery.framing (delivery : Delivery) (body : Bytes) : Framing :=
  match delivery.endMark with
  | .length => .sized (delivery.sent body).length
  | .lastChunk => .chunked true
  | .missing => .chunked false
  | .closing => .untilClose

/-- The answer to a call that is an envelope with blanks behind it. -/
def paddedAnswer (delivery : Delivery) (envelope : Envelope) (count : Nat) :
    Response :=
  let body := Utf8.encode (paddedText envelope count)
  { status := .ok
    headers := if delivery.coded then [("content-encoding", "gzip")] else []
    framing := delivery.framing body
    pieces := [delivery.sent body]
    staysOpen := false }

/-- The text of an envelope starts with a brace. -/
theorem paddedText_starts (envelope : Envelope) (count : Nat) :
    ∃ rest, (paddedText envelope count).toList =
      '\x7b' :: (rest ++ List.replicate count ' ') := by
  rw [paddedText, String.toList_append, Codec.toText, Json.Value.toText,
    String.toList_ofList, String.toList_ofList]
  exact ⟨_, rfl⟩

private theorem parse_paddedText (envelope : Envelope) (count : Nat) :
    Envelope.codec.parse (paddedText envelope count) = .ok envelope := by
  have blanks : Blanks (List.replicate count ' ') := by
    intro char member
    rw [List.eq_of_mem_replicate member]
    decide
  exact parse_before_blanks (Wire.Envelope.roundTrips envelope) (by decide)
    blanks

/-- The text is not taken for one with a mark of its byte order. -/
theorem decodeBody_paddedText (envelope : Envelope) (count : Nat) :
    decodeBody none (Utf8.encode (paddedText envelope count)) =
      paddedText envelope count := by
  have read := Utf8.decodeLossy_encode (paddedText envelope count)
  obtain ⟨rest, starts⟩ := paddedText_starts envelope count
  rw [Utf8.encode, starts] at read ⊢
  exact read

section

variable (delivery : Delivery) (envelope : Envelope) (count : Nat)

theorem paddedAnswer_delivery :
    (paddedAnswer delivery envelope count).delivery = delivery := by
  have framed : (delivery.framing (Utf8.encode (paddedText envelope
      count))).endMark = delivery.endMark := by
    rw [Delivery.framing]
    cases delivery.endMark <;> rfl
  rw [Response.delivery, Response.isCoded, paddedAnswer]
  dsimp only
  rw [framed]
  obtain ⟨endMark, coded⟩ := delivery
  cases coded with
  | false => exact congrArg (Delivery.mk endMark) (Bool.and_false _)
  | true =>
      refine congrArg (Delivery.mk endMark) ?_
      rw [if_pos rfl, tellCoding_gzip, Bool.and_true, bne_iff_ne,
        Delivery.framing]
      cases endMark with
      | length =>
          intro isEmpty
          exact Nat.succ_ne_zero _ (Framing.sized.inj isEmpty)
      | lastChunk | missing | closing => rintro ⟨⟩

/-- All that was sent arrives if its end can be told. -/
theorem paddedAnswer_transfer (told : delivery.endMark ≠ .missing) :
    (paddedAnswer delivery envelope count).transfer =
      ([delivery.sent (Utf8.encode (paddedText envelope count))], .complete) := by
  have whole (sent : Bytes) : takeBytes sent.length [sent] = [sent] := by
    rw [takeBytes, if_pos (Nat.le_refl _)]
    rfl
  obtain ⟨endMark, coded⟩ := delivery
  cases endMark with
  | length =>
      show (takeBytes _ [_], if _ ≤ [_].flatten.length then _ else _) = _
      rw [whole, List.flatten_singleton, if_pos (Nat.le_refl _)]
  | missing => exact absurd rfl told
  | lastChunk => rfl
  | closing => rfl

variable {delivery} (openEnded : delivery.IsOpenEnded)
include openEnded

theorem paddedAnswer_body :
    (paddedAnswer delivery envelope count).body =
      ([Utf8.encode (paddedText envelope count)], .complete) := by
  have told : delivery.endMark ≠ .missing := by
    intro missing
    obtain ⟨endMark, coded⟩ := delivery
    subst missing
    exact openEnded
  have isCoded : (paddedAnswer delivery envelope count).isCoded =
      delivery.coded :=
    congrArg Delivery.coded (paddedAnswer_delivery delivery envelope count)
  rw [Response.body, isCoded, paddedAnswer_transfer _ _ _ told, Delivery.sent]
  split
  · exact decodeContent_pack _ _
  · rfl

private theorem paddedAnswer_knownLength? :
    (paddedAnswer delivery envelope count).knownLength? = none := by
  have isCoded : (paddedAnswer delivery envelope count).isCoded =
      delivery.coded :=
    congrArg Delivery.coded (paddedAnswer_delivery delivery envelope count)
  obtain ⟨endMark, coded⟩ := delivery
  rw [Response.knownLength?, isCoded]
  cases endMark with
  | length =>
      obtain rfl : coded = true := openEnded
      rfl
  | missing => exact absurd openEnded id
  | lastChunk => cases coded <;> rfl
  | closing => cases coded <;> rfl

theorem length_paddedAnswer :
    count < (paddedAnswer delivery envelope count).body.1.flatten.length := by
  have characters := Text.Utf8.length_le_encode (paddedText envelope count)
  obtain ⟨rest, starts⟩ := paddedText_starts envelope count
  rw [starts, List.length_cons, List.length_append, List.length_replicate]
    at characters
  rw [paddedAnswer_body _ _ openEnded, List.flatten_singleton]
  omega

/-- The envelope is read, however many blanks are behind it. -/
theorem single_paddedAnswer (id : RequestId) (model : String) :
    single id model (.ok (paddedAnswer delivery envelope count)) =
      .ok envelope := by
  have text : (paddedAnswer delivery envelope count).text? =
      some (paddedText envelope count) := by
    have untyped : (paddedAnswer delivery envelope count).header?
        "content-type" = none := by
      rw [Response.header?, paddedAnswer]
      dsimp only
      cases delivery.coded <;> decide +kernel
    rw [Response.text?, paddedAnswer_body _ _ openEnded, untyped]
    dsimp only
    rw [List.flatten_singleton, decodeBody_paddedText]
  rw [single_of_success rfl, envelopeOf, paddedAnswer_knownLength? _ _ openEnded,
    text]
  show readEnvelope id (paddedText envelope count) = _
  rw [readEnvelope, parse_paddedText]

end

/-! ## The deliveries that limit answers -/

private theorem Delivery.IsOpenEnded.not_limits {delivery : Delivery}
    (openEnded : delivery.IsOpenEnded) : ¬ delivery.Limits := by
  intro limits
  obtain ⟨report, refused⟩ := limits ⟨0⟩ "" (paddedAnswer delivery
    ⟨0, "", false, none⟩ sizeLimit) (paddedAnswer_delivery delivery _ _) rfl
    (length_paddedAnswer _ sizeLimit openEnded)
  rw [single_paddedAnswer _ _ openEnded] at refused
  cases refused

/-- The size of answers is limited exactly where their length is announced and
they are not coded, or where their end never comes. Where they come in any other
way, each envelope is taken from answers with more than any number of bytes. -/
theorem Delivery.limits_unless_isOpenEnded (delivery : Delivery) :
    (delivery.Limits ↔ ¬ delivery.IsOpenEnded) ∧
      (delivery.IsOpenEnded → ∀ (envelope : Envelope) (count : Nat),
        ∃ response : Response, response.delivery = delivery ∧
          response.status.isSuccess = true ∧
          count < response.body.1.flatten.length ∧
          ∀ (id : RequestId) (model : String),
            single id model (.ok response) = .ok envelope) := by
  refine ⟨⟨fun limits openEnded => openEnded.not_limits limits,
    Delivery.limits_of_not_isOpenEnded⟩, fun openEnded envelope count => ?_⟩
  exact ⟨paddedAnswer delivery envelope count, paddedAnswer_delivery _ _ _, rfl,
    length_paddedAnswer envelope count openEnded,
    single_paddedAnswer envelope count openEnded⟩

/-- An answer that ends with the connection, with as many blanks behind its
envelope as an answer may have bytes. -/
def longAnswer : Response :=
  paddedAnswer ⟨.closing, false⟩ ⟨200, "", false, none⟩ sizeLimit

/-- An answer is taken although it is longer than answers may be. -/
theorem longAnswer_taken :
    longAnswer.framing = .untilClose ∧ longAnswer.status.isSuccess = true ∧
      sizeLimit < longAnswer.body.1.flatten.length ∧
      single ⟨0⟩ "chatglm_lite" (.ok longAnswer) =
        .ok ⟨200, "", false, none⟩ := by
  have openEnded : Delivery.IsOpenEnded ⟨.closing, false⟩ := trivial
  exact ⟨rfl, rfl, length_paddedAnswer _ sizeLimit openEnded,
    single_paddedAnswer _ sizeLimit openEnded _ _⟩

end Parley.Http
