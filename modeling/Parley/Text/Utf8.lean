/-!
Contract: UTF-8 between characters and bytes.

Decoding cuts any byte sequence into *pieces*: well-formed characters and
maximal malformed subparts. A malformed piece is the longest beginning of a
well-formed encoding that the bytes at that place offer, or one byte if they
offer none; it is truncated if the bytes ended inside it. The three readings of
bytes (strict, lossy, longest valid beginning) take the same steps.

Owns: `Bytes`, `encode`, `pieces` and the readings derived from it.
-/

namespace Parley.Text

abbrev Bytes := List UInt8

namespace Utf8

def encode (text : String) : Bytes :=
  text.toList.flatMap String.utf8EncodeChar

/-- One step of decoding. -/
inductive Piece where
  | char (value : Char)
  | malformed (bytes : Bytes) (truncated : Bool)
deriving DecidableEq

/-- What a lead byte announces: its payload bits and, for each continuation
byte, the range that keeps the encoding shortest and free of surrogates. -/
def announced? (lead : UInt8) : Option (Nat × List (UInt8 × UInt8)) :=
  let tail : UInt8 × UInt8 := (0x80, 0xBF)
  if lead < 0xC2 then none
  else if lead < 0xE0 then some (lead.toNat % 32, [tail])
  else if lead = 0xE0 then some (0, [(0xA0, 0xBF), tail])
  else if lead = 0xED then some (13, [(0x80, 0x9F), tail])
  else if lead < 0xF0 then some (lead.toNat % 16, [tail, tail])
  else if lead = 0xF0 then some (0, [(0x90, 0xBF), tail, tail])
  else if lead < 0xF4 then some (lead.toNat % 8, [tail, tail, tail])
  else if lead = 0xF4 then some (4, [(0x80, 0x8F), tail, tail])
  else none

/-- Reads announced continuation bytes. `taken` holds the bytes of this piece so
far, last first. -/
def continuation (payload : Nat) (taken : Bytes) :
    List (UInt8 × UInt8) → Bytes → Piece × Bytes
  | [], rest => (.char (Char.ofNat payload), rest)
  | _ :: _, [] => (.malformed taken.reverse true, [])
  | (least, most) :: ranges, byte :: rest =>
      if least ≤ byte ∧ byte ≤ most then
        continuation (payload * 64 + byte.toNat % 64) (byte :: taken) ranges rest
      else (.malformed taken.reverse false, byte :: rest)

/-- The first piece of a nonempty byte sequence, and what follows it. -/
def firstPiece (lead : UInt8) (rest : Bytes) : Piece × Bytes :=
  if lead < 0x80 then (.char (Char.ofNat lead.toNat), rest)
  else
    match announced? lead with
    | none => (.malformed [lead] false, rest)
    | some (payload, ranges) => continuation payload [lead] ranges rest

theorem continuation_length_le (payload : Nat) (taken : Bytes)
    (ranges : List (UInt8 × UInt8)) (rest : Bytes) :
    (continuation payload taken ranges rest).2.length ≤ rest.length := by
  induction ranges generalizing payload taken rest with
  | nil => simp [continuation]
  | cons range ranges inductionHypothesis =>
      cases rest with
      | nil => simp [continuation]
      | cons byte rest =>
          simp only [continuation]
          split
          · exact Nat.le_succ_of_le (inductionHypothesis _ _ _)
          · simp

theorem firstPiece_length_le (lead : UInt8) (rest : Bytes) :
    (firstPiece lead rest).2.length ≤ rest.length := by
  unfold firstPiece
  split
  · simp
  · split
    · simp
    · exact continuation_length_le _ _ _ _

/-- The pieces of a byte sequence, added behind those in `done`, which is held
last first. -/
def piecesOnto (done : List Piece) : Bytes → List Piece
  | [] => done.reverse
  | lead :: rest =>
      let step := firstPiece lead rest
      piecesOnto (step.1 :: done) step.2
termination_by bytes => bytes.length
decreasing_by
  exact Nat.lt_succ_of_le (firstPiece_length_le lead rest)

def pieces (bytes : Bytes) : List Piece :=
  piecesOnto [] bytes

def Piece.char? : Piece → Option Char
  | .char value => some value
  | .malformed _ _ => none

/-- The character shown for a piece: U+FFFD stands for a malformed one. -/
def Piece.shown (piece : Piece) : Char :=
  piece.char?.getD '\uFFFD'

/-- The text of the bytes with every malformed piece replaced by U+FFFD. -/
def decodeLossy (bytes : Bytes) : String :=
  String.ofList ((pieces bytes).map Piece.shown)

def decode? (bytes : Bytes) : Option String :=
  ((pieces bytes).mapM Piece.char?).map String.ofList

/-- The characters before the first malformed piece, behind those in `done`,
which is held last first, and the bytes from that piece on. -/
def validOnto (done : List Char) : Bytes → List Char × Bytes
  | [] => (done.reverse, [])
  | lead :: rest =>
      let step := firstPiece lead rest
      match step.1 with
      | .char value => validOnto (value :: done) step.2
      | .malformed _ _ => (done.reverse, lead :: rest)
termination_by bytes => bytes.length
decreasing_by
  exact Nat.lt_succ_of_le (firstPiece_length_le lead rest)

/-- The characters before the first malformed piece, and the bytes from that
piece on. -/
def validPart (bytes : Bytes) : List Char × Bytes :=
  validOnto [] bytes

def width (char : Char) : Nat :=
  char.utf8Size

end Utf8

end Parley.Text
