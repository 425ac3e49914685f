import Parley.Coding.Source

/-!
Contract: prefix codes that are told by the lengths of their words.

The words of one length are consecutive numbers in the order of their symbols, and
longer words continue where shorter ones end.

Owns: `PrefixCode` and the reading of its words.
-/

namespace Parley.Coding

/-- A prefix code: for each length of a word, from one bit on, the number of such
words, and the symbols in the order of their words. -/
structure PrefixCode where
  counts : List Nat
  symbols : Array Nat

namespace PrefixCode

def longest : Nat := 15

def symbolsOf (lengths : List Nat) (length : Nat) : List Nat :=
  (lengths.zipIdx.filter (·.1 == length)).map (·.2)

/-- The code in which each symbol has a word of its length, or none where the
length is zero. -/
def ofLengths (lengths : List Nat) : PrefixCode :=
  let ranks := (List.range longest).map fun index =>
    symbolsOf lengths (index + 1)
  ⟨ranks.map List.length, ranks.flatten.toArray⟩

/-- Whether a code has a word for all data, or hardly any words at all. -/
def isUsable (code : PrefixCode) : Bool :=
  let covered := code.counts.foldl (fun total count => 2 * (total + count)) 0
  covered == Nat.pow 2 (longest + 1) || code.symbols.size ≤ 1

/-- Reads a word on from its start. `distance` is how far the start is behind the
words of its length, and `index` the number of shorter words. -/
def readFrom (symbols : Array Nat) : List Nat → Nat → Nat → Reads Nat
  | [], _, _ => Reads.refuse
  | count :: longer, distance, index => do
      let distance := 2 * distance + (← Reads.bit)
      if distance < count then pure (symbols.getD (index + distance) 0)
      else readFrom symbols longer (distance - count) (index + count)

def read (code : PrefixCode) : Reads Nat :=
  readFrom code.symbols code.counts 0 0

end PrefixCode

end Parley.Coding
