import Parley.Http.Failure
import Parley.Proofs.Json.Value

/-!
Contract: what the failure of a request with a status says.

The body of a failed request may explain the failure at four places. The first
place that holds a text decides, also if that text is empty: then nothing of the
body is kept, and the failure is explained with its status. A body that is not
JSON, or that holds no text at the places, is the explanation itself.

Owns: `explanations`, `Status.Explained`, which failure a status makes and when a
useful explanation is kept, and a body whose explanation is lost.
-/

namespace Parley.Json.Value

/-- The value at the end of a path of keys. -/
def at? (value : Value) : List String → Option Value
  | [] => some value
  | key :: keys => (value.member? key).bind fun held => held.at? keys

/-- The text at the end of a path of keys. -/
def textAt? (value : Value) (keys : List String) : Option String :=
  (value.at? keys).bind text?

/-- A value is read from its own text. -/
theorem parse_toText {value : Value} (plain : value.Plain)
    (shallow : value.nesting ≤ depthLimit) :
    parse value.toText = .ok value := by
  have isRead := readValue_written plain shallow [] trivial
  rw [List.append_nil] at isRead
  rw [parse, toText, String.toList_ofList, isRead]
  rfl

end Parley.Json.Value

namespace Parley.Http

open Parley.Json (LocatedFault Value)
open Parley.Provider (Failure)

/-- The places of explanations, in the order in which they are looked at. -/
def explanationPlaces : List (List String) :=
  [["msg"], ["error", "message"], ["message"], ["error"]]

/-- The texts at the places of explanations. -/
def explanations (body : Value) : List String :=
  explanationPlaces.filterMap body.textAt?

/-- What a failure is explained with: what the body holds, and the status where
that is nothing. -/
def Status.said (status : Status) (body : Option String) : String :=
  ((body.map explain).filter fun text => !text.isEmpty).getD
    status.plainExplanation

/-- What is known of the explanation of a failure, by the body of the response. -/
structure Status.Explained (status : Status) (body : Option String)
    (said : String) : Prop where
  notEmpty : said ≠ ""
  withoutBody : body = none ∨ body = some "" →
    said = "HTTP error " ++ toString status.code
  malformed : ∀ (text : String) (fault : LocatedFault), body = some text →
    text ≠ "" → Value.parse text = .error fault → said = text
  silent : ∀ (text : String) (value : Value), body = some text →
    Value.parse text = .ok value → explanations value = [] → said = text
  spoken : ∀ (text first : String) (value : Value), body = some text →
    Value.parse text = .ok value → (explanations value).head? = some first →
      first ≠ "" → said = first
  hushed : ∀ (text : String) (value : Value), body = some text →
    Value.parse text = .ok value → (explanations value).head? = some "" →
      said = "HTTP error " ++ toString status.code

/-! ## Explanations in a body -/

theorem textAt?_one (body : Value) (key : String) :
    body.textAt? [key] = (body.member? key).bind Value.text? := by
  rw [Value.textAt?, Value.at?]
  exact Option.bind_assoc _ _ _

private theorem textAt?_two (body : Value) (first second : String) :
    body.textAt? [first, second] =
      ((body.member? first).bind (Value.member? second)).bind
        Value.text? := by
  rw [Value.textAt?, Value.at?, Option.bind_assoc, Option.bind_assoc]
  refine congrArg _ (funext fun held => ?_)
  exact textAt?_one held second

/-- The explanation is the text at the first place that holds one. -/
theorem explanation?_eq_head? (body : Value) :
    explanation? body = (explanations body).head? := by
  rw [explanations, List.head?_filterMap]
  simp only [explanationPlaces, List.findSome?_cons, List.findSome?_nil,
    textAt?_one, textAt?_two]
  rw [explanation?]
  cases (body.member? "msg").bind Value.text? <;>
    cases ((body.member? "error").bind (Value.member? "message")).bind
      Value.text? <;>
    cases (body.member? "message").bind Value.text? <;>
    cases (body.member? "error").bind Value.text? <;> rfl

private theorem explain_malformed {text : String} {fault : LocatedFault}
    (refused : Value.parse text = .error fault) : explain text = text := by
  rw [explain, refused]

/-- A body that is read is explained by its first text, or by itself. -/
theorem explain_read {text : String} {value : Value}
    (isRead : Value.parse text = .ok value) :
    explain text = (explanations value).head?.getD text := by
  rw [explain, isRead]
  exact congrArg (Option.getD · text) (explanation?_eq_head? value)

/-! ## Explanations of a failure -/

namespace Status

variable (status : Status)

theorem plainExplanation_ne_empty : status.plainExplanation ≠ "" := by
  intro empty
  have length := congrArg String.length empty
  rw [plainExplanation, String.length_append] at length
  exact absurd length (by simp)

theorem said_some (text : String) :
    status.said (some text) =
      if explain text = "" then status.plainExplanation else explain text := by
  rw [said, Option.map_some, Option.filter_some]
  by_cases empty : explain text = ""
  · rw [if_pos empty, empty]
    rfl
  · rw [if_neg empty, if_pos (by simpa using empty), Option.getD_some]

private theorem said_ne_empty (body : Option String) :
    status.said body ≠ "" := by
  cases body with
  | none => exact status.plainExplanation_ne_empty
  | some text =>
      rw [said_some]
      split
      · exact status.plainExplanation_ne_empty
      · assumption

theorem said_explained (body : Option String) :
    status.Explained body (status.said body) where
  notEmpty := status.said_ne_empty body
  withoutBody absent := by
    rcases absent with rfl | rfl
    · rfl
    · rfl
  malformed text fault isBody notEmpty refused := by
    rw [isBody, said_some, explain_malformed refused, if_neg notEmpty]
  silent text value isBody isRead nothing := by
    have notEmpty : text ≠ "" := by
      rintro rfl
      cases isRead
    rw [isBody, said_some, explain_read isRead, nothing]
    exact if_neg notEmpty
  spoken text first value isBody isRead isFirst notEmpty := by
    rw [isBody, said_some, explain_read isRead, isFirst]
    exact if_neg notEmpty
  hushed text value isBody isRead isFirst := by
    rw [isBody, said_some, explain_read isRead, isFirst]
    exact if_pos rfl

end Status

/-- A useful explanation is kept exactly if no empty one stands before it, unless
the status alone says as much. -/
theorem Status.Explained.kept_iff {status : Status} {text said : String}
    (explained : status.Explained (some text) said) {value : Value}
    (isRead : Value.parse text = .ok value)
    (useful : ∃ explanation ∈ explanations value, explanation ≠ "") :
    said ∈ explanations value ↔
      (explanations value).head? ≠ some "" ∨
        "HTTP error " ++ toString status.code ∈ explanations value := by
  obtain ⟨explanation, member, _⟩ := useful
  obtain ⟨first, rest, split⟩ := List.exists_cons_of_ne_nil
    (List.ne_nil_of_mem member)
  have isFirst : (explanations value).head? = some first := by
    rw [split, List.head?_cons]
  rw [isFirst]
  by_cases empty : first = ""
  · rw [empty] at isFirst
    rw [explained.hushed text value rfl isRead isFirst, empty]
    exact ⟨.inr, fun either => either.resolve_left fun other => other rfl⟩
  · have kept : said = first :=
      explained.spoken text first value rfl isRead isFirst empty
    rw [kept, split]
    exact ⟨fun _ => .inl fun same => empty (Option.some.inj same),
      fun _ => List.mem_cons_self⟩

/-! ## Failures -/

private theorem ofStatus_of_isTimeout {status : Status}
    (isTimeout : status.isTimeout = true) (body : Option String)
    (id : RequestId) : ofStatus status body id = .timeout := by
  rw [ofStatus, if_pos isTimeout]

theorem ofStatus_of_not_isTimeout {status : Status}
    (other : ¬ status.isTimeout = true) (body : Option String)
    (id : RequestId) :
    ofStatus status body id =
      .http status.code (status.said body ++ id.tag) := by
  rw [ofStatus, if_neg other]
  rfl

private theorem Status.isTimeout_iff {status : Status} :
    status.isTimeout = true ↔ status.code = 408 ∨ status.code = 504 := by
  rw [Status.isTimeout, Bool.or_eq_true, beq_iff_eq, beq_iff_eq]

/-- A status makes a failure of the transport: that the time was up, or one with
an explanation that is never empty. A useful explanation in the body is kept
exactly if no empty text stands at an earlier place. -/
theorem ofStatus_keeps_explanation_iff (status : Status) (body : Option String)
    (id : RequestId) :
    (ofStatus status body id).isTransport = true ∧
      (ofStatus status body id = .timeout ↔
        status.code = 408 ∨ status.code = 504) ∧
      (¬ (status.code = 408 ∨ status.code = 504) → ∃ said : String,
        ofStatus status body id = .http status.code
          (said ++ (" [request_id: " ++ id.text ++ "]")) ∧
        status.Explained body said ∧
        ∀ (text : String) (value : Value), body = some text →
          Value.parse text = .ok value →
          (∃ explanation ∈ explanations value, explanation ≠ "") →
            (said ∈ explanations value ↔
              (explanations value).head? ≠ some "" ∨
                "HTTP error " ++ toString status.code ∈
                  explanations value)) := by
  rw [← Status.isTimeout_iff]
  by_cases isTimeout : status.isTimeout = true
  · rw [ofStatus_of_isTimeout isTimeout]
    exact ⟨rfl, ⟨fun _ => isTimeout, fun _ => rfl⟩,
      fun other => absurd isTimeout other⟩
  · rw [ofStatus_of_not_isTimeout isTimeout]
    have notTimeout : Failure.http status.code (status.said body ++ id.tag) ≠
        .timeout := by
      intro same
      cases same
    refine ⟨rfl, ⟨fun same => absurd same notTimeout,
      fun same => absurd same isTimeout⟩,
      fun _ => ⟨status.said body, rfl, status.said_explained body, ?_⟩⟩
    intro text value isBody isRead useful
    rw [isBody]
    exact (status.said_explained (some text)).kept_iff isRead useful

/-- A body whose message is behind an empty text. -/
def hushedBody : Value :=
  .object [("message", .text "boom"), ("msg", .text "")]

theorem parse_hushedBody : Value.parse hushedBody.toText = .ok hushedBody := by
  have plain : hushedBody.Plain := by
    refine .object (by decide) ?_
    exact List.forall_mem_cons.mpr
      ⟨.text "boom", List.forall_mem_singleton.mpr (.text "")⟩
  exact Value.parse_toText plain (by decide)

/-- The message of a body is lost behind an empty text: the failure only names its
status. -/
theorem hushedBody_loses_message :
    hushedBody.toText = "\x7b\"message\":\"boom\",\"msg\":\"\"\x7d" ∧
      Value.parse hushedBody.toText = .ok hushedBody ∧
      explanations hushedBody = ["", "boom"] ∧
      ofStatus ⟨400⟩ (some hushedBody.toText) ⟨0⟩ = .http 400
        ("HTTP error 400" ++ (" [request_id: " ++ RequestId.text ⟨0⟩ ++ "]")) ∧
      "HTTP error 400" ∉ explanations hushedBody := by
  have lost : Status.said ⟨400⟩ (some hushedBody.toText) = "HTTP error 400" :=
    (Status.said_explained ⟨400⟩ _).hushed _ _ rfl parse_hushedBody rfl
  refine ⟨by decide, parse_hushedBody, rfl, ?_, by decide⟩
  rw [ofStatus_of_not_isTimeout (by decide), lost]
  rfl

end Parley.Http
