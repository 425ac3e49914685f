import Parley.Http.Response
import Parley.Proofs.Coding.Stored

/-!
Contract: what arrives of the body of a response.

No more arrives than was announced, and what does not end is not complete, coded
or not. A body that is sent in a coded form arrives as it was.

Owns: the laws of `Response.transfer` and `Response.body`.
-/

namespace Parley.Http

open Parley.Coding (Gzip.pack Gzip.unpack_pack)
open Parley.Text (Bytes)

private theorem length_takeBytes_le (count : Nat) (pieces : List Bytes) :
    (takeBytes count pieces).flatten.length ≤ count := by
  induction pieces generalizing count with
  | nil => exact Nat.zero_le count
  | cons piece rest inductionHypothesis =>
      rw [takeBytes]
      split
      · rename_i fits
        have others := inductionHypothesis (count - piece.length)
        rw [List.flatten_cons, List.length_append]
        omega
      · rw [List.flatten_singleton]
        exact List.length_take_le count piece

/-! ## Coded bodies -/

theorem tellCoding_gzip :
    tellCoding [("content-encoding", "gzip")] = true := by
  decide +kernel

/-- A coded body is decoded as a whole. -/
theorem decodeContent_pack (content : Bytes) (ending : Ending) :
    decodeContent ([Gzip.pack content], ending) = ([content], ending) := by
  have later (count : Nat) (few : count ≤ (Gzip.pack content).length) :
      piecesAfter count [Gzip.pack content] = [] := by
    rw [piecesAfter, if_pos few]
  rw [decodeContent]
  dsimp only
  rw [List.flatten_singleton, if_neg (by rw [Gzip.pack]; exact Bool.false_ne_true),
    Gzip.unpack_pack]
  dsimp only
  rw [later _ (Nat.sub_le _ _)]
  rfl

/-- Nothing that is cut or unfinished is complete once it is decoded. -/
theorem decodeContent_early {transfer : List Bytes × Ending}
    (early : transfer.2 ≠ .complete) :
    (decodeContent transfer).2 ≠ .complete := by
  rw [decodeContent]
  dsimp only
  split
  · exact early
  · dsimp only
    split
    · decide
    · exact early
    · split
      · exact early
      · decide

/-! ## Bodies of responses -/

namespace Response

variable {response : Response} {length : Nat}

theorem body_of_uncoded (uncoded : response.isCoded = false) :
    response.body = response.transfer := by
  rw [body, if_neg (by rw [uncoded]; exact Bool.false_ne_true)]

/-- No more of a body is sent than was announced. -/
theorem length_transfer_le (sized : response.framing = .sized length) :
    response.transfer.1.flatten.length ≤ length := by
  rw [transfer, sized]
  split
  · exact Nat.zero_le length
  · exact length_takeBytes_le length response.pieces

/-- A body of which something arrives may be there at all. -/
theorem hasBody_of_length_pos (arrives : 0 < response.body.1.flatten.length) :
    response.status.hasBody = true := by
  cases hasBody : response.status.hasBody with
  | true => rfl
  | false =>
      have nothing : response.transfer = ([], .complete) := by
        rw [transfer, if_pos (by rw [hasBody]; rfl)]
      rw [body, nothing] at arrives
      split at arrives <;> exact absurd arrives (Nat.lt_irrefl 0)

theorem text?_eq_none (early : response.body.2 ≠ .complete) :
    response.text? = none := by
  rw [text?]
  split
  · rename_i complete
    exact absurd (congrArg Prod.snd complete) early
  · rfl

/-- A body whose last chunk is missing does not end. -/
theorem body_early (unfinished : response.framing = .chunked false)
    (hasBody : response.status.hasBody = true) :
    response.body.2 ≠ .complete := by
  have early : response.transfer.2 ≠ .complete := by
    rw [transfer, unfinished, if_neg (by rw [hasBody]; decide)]
    dsimp only
    rw [if_neg Bool.false_ne_true, Ending.early]
    split <;> decide
  rw [body]
  split
  · exact decodeContent_early early
  · exact early

end Response

end Parley.Http
