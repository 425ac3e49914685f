import Parley.Coding.Gzip

/-!
Contract: all bytes have a coded form.

Blocks may hold bytes as they are. What is coded by such blocks alone, one for
each byte, is decoded to the bytes again.

Owns: `Gzip.pack` and its round trip.
-/

namespace Parley.Coding

open Parley.Text (Bytes)

/-- What is read behind a value starts where the value ends. -/
theorem Reads.bind_of_ok {α β : Type} {reads : Reads α} {next : α → Reads β}
    {source rest : Source} {value : α}
    (isRead : reads source = .ok (value, rest)) :
    (reads >>= next) source = next value rest := by
  show (reads source >>= _) = _
  rw [isRead]
  rfl

/-- The rest of a byte of which some bits were read is left out. -/
theorem Reads.align_within (start : UInt8) (rest : Bytes) (taken : Nat) :
    Reads.align ⟨start :: rest, taken + 1⟩ = .ok ((), ⟨rest, 0⟩) :=
  rfl

/-! ## Numbers -/

/-- A number as some bytes, the least one first. -/
def numberBytes : Nat → Nat → Bytes
  | 0, _ => []
  | count + 1, number =>
      UInt8.ofNat number :: numberBytes count (number / 256)

/-- A number is read from its bytes, whatever is behind them. -/
theorem Reads.number_numberBytes (count number : Nat)
    (fits : number < Nat.pow 256 count) (rest : Bytes) :
    Reads.number count ⟨numberBytes count number ++ rest, 0⟩ =
      .ok (number, ⟨rest, 0⟩) := by
  induction count generalizing number with
  | zero =>
      obtain rfl : number = 0 := Nat.lt_one_iff.mp fits
      rfl
  | succ count inductionHypothesis =>
      have othersFit : number / 256 < Nat.pow 256 count :=
        Nat.div_lt_of_lt_mul (by rw [Nat.mul_comm]; exact fits)
      have others := inductionHypothesis _ othersFit
      have whole : (UInt8.ofNat number).toNat + 256 * (number / 256) = number := by
        rw [UInt8.toNat_ofNat']
        omega
      rw [numberBytes, Reads.number, List.cons_append, Reads.bind_of_ok rfl,
        Reads.bind_of_ok others, whole]
      rfl

/-! ## Blocks -/

/-- A block that holds bytes as they are. -/
def storedBlock (last : Bool) (content : Bytes) : Bytes :=
  (if last then 1 else 0) :: (numberBytes 2 content.length ++
    (numberBytes 2 (0xFFFF - content.length) ++ content))

/-- A block for each byte, and a last one. -/
def storedBlocks (content : Bytes) : Bytes :=
  content.flatMap (fun byte => storedBlock false [byte]) ++ storedBlock true []

private theorem length_lt_storedBlocks (content : Bytes) :
    content.length < (storedBlocks content).length := by
  induction content with
  | nil => decide
  | cons byte content inductionHypothesis =>
      have isBlock : 0 < (storedBlock false [byte]).length := Nat.succ_pos _
      rw [storedBlocks, List.length_append] at inductionHypothesis ⊢
      rw [List.flatMap_cons, List.length_append, List.length_cons]
      omega

/-- The first bit of a block says whether it is the last one, and the next two its
kind. -/
private theorem readBlockStart_stored (last : Bool) (rest : Bytes) :
    readBlockStart ⟨(if last then 1 else 0) :: rest, 0⟩ =
      .ok ((last, 0), ⟨(if last then 1 else 0) :: rest, 3⟩) := by
  have isRead (start : UInt8) : readBlockStart ⟨start :: rest, 0⟩ =
      .ok ((start.toNat >>> 0 % 2 == 1,
        start.toNat >>> 1 % 2 + 2 * (start.toNat >>> 2 % 2)),
        ⟨start :: rest, 3⟩) := rfl
  rw [isRead]
  cases last <;> rfl

private theorem readStoredLength_cons {length : Nat} (fits : length ≤ 0xFFFF)
    (start : UInt8) (rest : Bytes) :
    readStoredLength ⟨start :: (numberBytes 2 length ++
        (numberBytes 2 (0xFFFF - length) ++ rest)), 3⟩ =
      .ok (length, ⟨rest, 0⟩) := by
  have first := Reads.number_numberBytes 2 length
    (Nat.lt_succ_of_le fits) (numberBytes 2 (0xFFFF - length) ++ rest)
  have second := Reads.number_numberBytes 2 (0xFFFF - length)
    (Nat.lt_succ_of_le (Nat.sub_le 0xFFFF length)) rest
  rw [readStoredLength, Reads.bind_of_ok (Reads.align_within start _ 2),
    Reads.bind_of_ok first, Reads.bind_of_ok second,
    if_pos (Nat.add_sub_cancel' fits)]
  rfl

variable {content : Bytes} (rest : Bytes) (output : Array UInt8)

private theorem inflateBlock_stored {source : Source}
    (told : readStoredLength source =
      .ok (content.length, ⟨content ++ rest, 0⟩)) :
    inflateBlock 0 source output = ⟨output ++ content, .ok ⟨rest, 0⟩⟩ := by
  rw [inflateBlock, inflateStored, told]
  dsimp only
  rw [List.take_left, List.drop_left, if_neg]
  rw [List.length_append]
  omega

/-- What a stored block holds is decoded as it is. -/
theorem inflateBlocks_storedBlock (last : Bool)
    (fits : content.length ≤ 0xFFFF) (bound : Nat) :
    inflateBlocks (bound + 1) ⟨storedBlock last content ++ rest, 0⟩ output =
      if last then ⟨output ++ content, .ok ⟨rest, 0⟩⟩
      else inflateBlocks bound ⟨rest, 0⟩ (output ++ content) := by
  have told := readStoredLength_cons fits (if last then 1 else 0)
    (content ++ rest)
  rw [inflateBlocks, storedBlock, List.cons_append, List.append_assoc,
    List.append_assoc, readBlockStart_stored]
  dsimp only
  rw [inflateBlock_stored rest output told]

/-- The blocks are decoded behind any output, and what is behind them is left. -/
theorem inflateBlocks_storedBlocks {bound : Nat}
    (enough : content.length < bound) :
    inflateBlocks bound ⟨storedBlocks content ++ rest, 0⟩ output =
      ⟨output ++ content, .ok ⟨rest, 0⟩⟩ := by
  obtain ⟨bound, rfl⟩ : ∃ more, bound = more + 1 :=
    ⟨bound - 1, by omega⟩
  induction content generalizing bound output with
  | nil => exact inflateBlocks_storedBlock rest output true (by decide) bound
  | cons byte content inductionHypothesis =>
      obtain ⟨bound, rfl⟩ : ∃ more, bound = more + 1 :=
        ⟨bound - 1, by rw [List.length_cons] at enough; omega⟩
      have others := inductionHypothesis (output ++ [byte]) bound
        (Nat.lt_of_succ_lt_succ enough)
      rw [storedBlocks, List.flatMap_cons, List.append_assoc,
        List.append_assoc, ← List.append_assoc (content.flatMap _)]
      rw [inflateBlocks_storedBlock _ _ false (Nat.le_of_ble_eq_true rfl),
        ← storedBlocks, if_neg Bool.false_ne_true, others]
      simp

/-! ## Header and trailer -/

namespace Gzip

/-- A header without further fields. -/
def plainHeader : Bytes :=
  [0x1F, 0x8B, 8, 0, 0, 0, 0, 0, 0, 0xFF]

def trailer (content : Bytes) : Bytes :=
  numberBytes 4 (checksum content.toArray).toNat ++
    numberBytes 4 (content.length % 0x100000000)

/-- A coded form of bytes. -/
def pack (content : Bytes) : Bytes :=
  plainHeader ++ (storedBlocks content ++ trailer content)

private theorem readHeader_plainHeader (rest : Bytes) :
    readHeader ⟨plainHeader ++ rest, 0⟩ = .ok ((), ⟨rest, 0⟩) := by
  rfl

private theorem readTrailer_trailer (content : Bytes) :
    readTrailer content.toArray ⟨trailer content, 0⟩ = .ok ((), ⟨[], 0⟩) := by
  have sum := Reads.number_numberBytes 4 (checksum content.toArray).toNat
    (checksum content.toArray).toNat_lt
    (numberBytes 4 (content.length % 0x100000000))
  have size := Reads.number_numberBytes 4 (content.length % 0x100000000)
    (Nat.mod_lt content.length (by decide)) []
  rw [List.append_nil] at size
  have aligned : Reads.align ⟨trailer content, 0⟩ =
      .ok ((), ⟨trailer content, 0⟩) := rfl
  rw [readTrailer, Reads.bind_of_ok aligned, trailer, Reads.bind_of_ok sum,
    Reads.bind_of_ok size, List.size_toArray, if_neg (by simp)]
  rfl

/-- All bytes are decoded from their coded form. -/
theorem unpack_pack (content : Bytes) :
    unpack (pack content) = ⟨content, .ok []⟩ := by
  have enough : content.length <
      8 * (storedBlocks content ++ trailer content).length := by
    have shorter := length_lt_storedBlocks content
    rw [List.length_append]
    omega
  have decoded : inflate ⟨storedBlocks content ++ trailer content, 0⟩ =
      ⟨content.toArray, .ok ⟨trailer content, 0⟩⟩ := by
    rw [inflate, inflateBlocks_storedBlocks _ _ enough]
    simp
  rw [unpack, pack, readHeader_plainHeader]
  dsimp only
  rw [decoded]
  show Unpacked.mk content (readTrailer content.toArray _ >>= _) = _
  rw [readTrailer_trailer]
  rfl

end Gzip

end Parley.Coding
