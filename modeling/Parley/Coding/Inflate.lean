import Parley.Coding.PrefixCode

/-!
Contract: compressed data in blocks.

A block holds bytes as they are, or words of a prefix code, which is fixed or
described at the start of the block. A symbol is a byte, the end of the block, or
a number of bytes that repeat those some distance before. What was decoded before
a fault is kept.

Owns: `Decoding` and `inflate`.
-/

namespace Parley.Coding

open Parley.Text (Bytes)

/-- What data was decoded to, and what is left of it, or the fault in it. -/
structure Decoding where
  output : Array UInt8
  outcome : Except Fault Source

/-- Ranges of numbers one behind the other, with the number of bits that tell the
numbers of each range apart. -/
def rangesFrom : Nat → List Nat → List (Nat × Nat)
  | _, [] => []
  | first, bits :: rest =>
      (first, bits) :: rangesFrom (first + Nat.pow 2 bits) rest

/-- The symbol at which a block ends. The symbols below are bytes, and those above
are ranges of lengths. -/
def endOfBlock : Nat := 256

def lengthRanges : Array (Nat × Nat) :=
  (rangesFrom 3 (List.replicate 4 0 ++
    (List.range 6).flatMap (List.replicate 4)) ++ [(258, 0)]).toArray

def distanceRanges : Array (Nat × Nat) :=
  (rangesFrom 1 (List.replicate 2 0 ++
    (List.range 14).flatMap (List.replicate 2))).toArray

/-- Reads which number of a range is meant. -/
def readInRange (ranges : Array (Nat × Nat)) (symbol : Nat) : Reads Nat :=
  match ranges[symbol]? with
  | none => Reads.refuse
  | some (first, bits) => do
      let more ← Reads.bits bits
      pure (first + more)

/-- The codes of a block: for bytes and lengths, and for distances. -/
structure Codes where
  literals : PrefixCode
  distances : PrefixCode

namespace Codes

def fixed : Codes where
  literals := .ofLengths (List.replicate 144 8 ++ List.replicate 112 9 ++
    List.replicate 24 7 ++ List.replicate 8 8)
  distances := .ofLengths (List.replicate 32 5)

/-- The order in which the lengths of the words for lengths are told. -/
def lengthOrder : List Nat :=
  [16, 17, 18, 0, 8, 7, 9, 6, 10, 5, 11, 4, 12, 3, 13, 2, 14, 1, 15]

/-- Reads a number of lengths of words, given those before them, the last one
first. A symbol may stand for several. -/
def readLengths (code : PrefixCode) (count : Nat) :
    Nat → List Nat → Reads (List Nat)
  | 0, _ => Reads.refuse
  | bound + 1, lengths =>
      if lengths.length = count then pure lengths.reverse
      else if count < lengths.length then Reads.refuse
      else do
        let symbol ← code.read
        match symbol, lengths with
        | 16, [] => Reads.refuse
        | 16, last :: _ =>
            let times ← Reads.bits 2
            readLengths code count bound
              (List.replicate (3 + times) last ++ lengths)
        | 17, _ =>
            let times ← Reads.bits 3
            readLengths code count bound
              (List.replicate (3 + times) 0 ++ lengths)
        | 18, _ =>
            let times ← Reads.bits 7
            readLengths code count bound
              (List.replicate (11 + times) 0 ++ lengths)
        | length, _ => readLengths code count bound (length :: lengths)

def readShortNumbers : Nat → Reads (List Nat)
  | 0 => pure []
  | count + 1 => do
      let first ← Reads.bits 3
      let others ← readShortNumbers count
      pure (first :: others)

def read : Reads Codes := do
  let literalCount := 257 + (← Reads.bits 5)
  let distanceCount := 1 + (← Reads.bits 5)
  let told ← readShortNumbers (4 + (← Reads.bits 4))
  if 286 < literalCount || 30 < distanceCount then Reads.refuse
  let code := PrefixCode.ofLengths <|
    (List.range lengthOrder.length).map fun symbol =>
      told.getD (lengthOrder.idxOf symbol) 0
  if !code.isUsable then Reads.refuse
  let count := literalCount + distanceCount
  let lengths ← readLengths code count (count + 1) []
  let literals := PrefixCode.ofLengths (lengths.take literalCount)
  let distances := PrefixCode.ofLengths (lengths.drop literalCount)
  if !literals.isUsable || !distances.isUsable then Reads.refuse
  pure ⟨literals, distances⟩

/-- Reads a length behind its symbol, and the distance with it. -/
def readRepeat (codes : Codes) (symbol : Nat) : Reads (Nat × Nat) := do
  let length ← readInRange lengthRanges (symbol - endOfBlock - 1)
  let distance ← readInRange distanceRanges (← codes.distances.read)
  pure (length, distance)

end Codes

/-- The output with a number of bytes more, which repeat those a distance
before. -/
def repeatBytes : Nat → Nat → Array UInt8 → Array UInt8
  | 0, _, output => output
  | count + 1, distance, output =>
      repeatBytes count distance
        (output.push (output.getD (output.size - distance) 0))

/-- Decodes symbols up to the end of the block. The count bounds their number. -/
def inflateSymbols (codes : Codes) :
    Nat → Source → Array UInt8 → Decoding
  | 0, _, output => ⟨output, .error .short⟩
  | bound + 1, source, output =>
      match codes.literals.read source with
      | .error fault => ⟨output, .error fault⟩
      | .ok (symbol, rest) =>
          if symbol < endOfBlock then
            inflateSymbols codes bound rest (output.push symbol.toUInt8)
          else if symbol = endOfBlock then ⟨output, .ok rest⟩
          else
            match codes.readRepeat symbol rest with
            | .error fault => ⟨output, .error fault⟩
            | .ok ((length, distance), rest) =>
                if output.size < distance then ⟨output, .error .malformed⟩
                else
                  inflateSymbols codes bound rest
                    (repeatBytes length distance output)

/-- Reads the number of bytes in a block that holds them as they are. It is
written twice, the second time with all bits inverted. -/
def readStoredLength : Reads Nat := do
  Reads.align
  let length ← Reads.number 2
  let inverted ← Reads.number 2
  if length + inverted = 0xFFFF then pure length else Reads.refuse

def inflateStored (source : Source) (output : Array UInt8) : Decoding :=
  match readStoredLength source with
  | .error fault => ⟨output, .error fault⟩
  | .ok (length, rest) =>
      ⟨output ++ rest.bytes.take length,
        if rest.bytes.length < length then .error .short
        else .ok ⟨rest.bytes.drop length, 0⟩⟩

def inflateBlock (kind : Nat) (source : Source) (output : Array UInt8) :
    Decoding :=
  let symbols (codes : Codes) (source : Source) : Decoding :=
    inflateSymbols codes (8 * source.bytes.length) source output
  match kind with
  | 0 => inflateStored source output
  | 1 => symbols .fixed source
  | 2 =>
      match Codes.read source with
      | .error fault => ⟨output, .error fault⟩
      | .ok (codes, rest) => symbols codes rest
  | _ => ⟨output, .error .malformed⟩

/-- Reads whether a block is the last one, and its kind. -/
def readBlockStart : Reads (Bool × Nat) := do
  let last ← Reads.bit
  let kind ← Reads.bits 2
  pure (last == 1, kind)

/-- Decodes blocks up to the last one. The count bounds their number. -/
def inflateBlocks : Nat → Source → Array UInt8 → Decoding
  | 0, _, output => ⟨output, .error .short⟩
  | bound + 1, source, output =>
      match readBlockStart source with
      | .error fault => ⟨output, .error fault⟩
      | .ok ((last, kind), rest) =>
          let block := inflateBlock kind rest output
          match block.outcome with
          | .error _ => block
          | .ok rest =>
              if last then block else inflateBlocks bound rest block.output

def inflate (source : Source) : Decoding :=
  inflateBlocks (8 * source.bytes.length) source #[]

end Parley.Coding
