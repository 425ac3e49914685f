import Parley.Time.Duration

/-!
Contract: random delays that a seed determines.

The random numbers are the 64-bit words of a ChaCha key stream of twelve rounds
whose key is spread from the seed. A number below a bound is taken from the high
half of the product of the bound and a random word; words for which that would
favour some numbers are passed over.

Owns: `Generator`, `Generator.ofSeed`, and `Generator.delay`.
-/

namespace Parley.Retry

open Parley.Time (Duration)

/-- The sixteen words that a ChaCha block is made from. -/
abbrev Block := Vector UInt32 16

namespace Block

def rotate (word : UInt32) (count : UInt32) : UInt32 :=
  (word <<< count) ||| (word >>> (32 - count))

def quarter (block : Block) (a b c d : Fin 16) : Block :=
  let first := block[a] + block[b]
  let fourth := rotate (block[d] ^^^ first) 16
  let third := block[c] + fourth
  let second := rotate (block[b] ^^^ third) 12
  let first := first + second
  let fourth := rotate (fourth ^^^ first) 8
  let third := third + fourth
  let second := rotate (second ^^^ third) 7
  (((block.set a first).set b second).set c third).set d fourth

/-- Mixes the columns of a block and then its diagonals. -/
def doubleRound (block : Block) : Block :=
  let columns :=
    (((block.quarter 0 4 8 12).quarter 1 5 9 13).quarter 2 6 10 14).quarter
      3 7 11 15
  (((columns.quarter 0 5 10 15).quarter 1 6 11 12).quarter 2 7 8 13).quarter
    3 4 9 14

def rounds : Nat → Block → Block
  | 0, block => block
  | count + 1, block => rounds count block.doubleRound

/-- The block of the key stream that a block of input makes in twelve rounds. -/
def stream (block : Block) : Block :=
  Vector.zipWith (· + ·) (block.rounds 6) block

end Block

/-- A source of random 64-bit words: its key, and how many words were drawn. -/
structure Generator where
  key : Vector UInt32 8
  drawn : UInt64

namespace Generator

def input (key : Vector UInt32 8) (counter : UInt64) : Block :=
  #v[0x61707865, 0x3320646e, 0x79622d32, 0x6b206574, key[0], key[1], key[2],
    key[3], key[4], key[5], key[6], key[7], counter.toUInt32,
    (counter >>> 32).toUInt32, 0, 0]

/-- The next random word. A block of the key stream holds eight of them. -/
def next (generator : Generator) : UInt64 × Generator :=
  let block := (input generator.key (generator.drawn / 8)).stream
  let place : Fin 8 := Fin.ofNat 8 generator.drawn.toNat
  let low : UInt32 := block[2 * place.val]
  let high : UInt32 := block[2 * place.val + 1]
  (low.toUInt64 ||| (high.toUInt64 <<< 32),
    { generator with drawn := generator.drawn + 1 })

def seedWord (state : UInt64) : UInt32 :=
  let mixed := (((state >>> 18) ^^^ state) >>> 27).toUInt32
  let count := (state >>> 59).toUInt32
  (mixed >>> count) ||| (mixed <<< ((32 - count) % 32))

def seedStep (state : UInt64) : UInt64 :=
  state * 6364136223846793005 + 11634580027462260723

def seedWords : Nat → UInt64 → List UInt32
  | 0, _ => []
  | count + 1, state =>
      let stepped := seedStep state
      seedWord stepped :: seedWords count stepped

theorem seedWords_length (count : Nat) (state : UInt64) :
    (seedWords count state).length = count := by
  induction count generalizing state with
  | zero => rfl
  | succ count inductionHypothesis =>
      simp [seedWords, inductionHypothesis]

def ofSeed (seed : UInt64) : Generator where
  key := ⟨(seedWords 8 seed).toArray, by simp [seedWords_length]⟩
  drawn := 0

/-- The largest low half of a product that is not passed over: the bound moved
to the high end of 64 bits, less one. -/
def acceptedZone (bound : Nat) : Nat :=
  bound * Nat.pow 2 (63 - Nat.log2 bound) - 1

/-- A random number below a positive bound of at most 64 bits. The count limits
the words that are drawn; every word is accepted with a chance of at least one
half. -/
def below (bound : Nat) : Nat → Generator → Nat × Generator
  | 0, generator => (0, generator)
  | tries + 1, generator =>
      let (word, drawn) := generator.next
      let product := word.toNat * bound
      if product % UInt64.size ≤ acceptedZone bound then
        (product / UInt64.size, drawn)
      else below bound tries drawn

/-- How many words are drawn for one number at most. -/
def tries : Nat := 4096

/-- A random delay below a bound, in whole milliseconds. The count of
milliseconds of the bound is taken modulo `2 ^ 64`; without one nothing is
drawn. -/
def delay (bound : Duration) (generator : Generator) :
    Duration × Generator :=
  let count := bound.toMillis % UInt64.size
  if count = 0 then (.zero, generator)
  else
    let (millis, drawn) := below count tries generator
    (.ofMillis millis, drawn)

end Generator

end Parley.Retry
