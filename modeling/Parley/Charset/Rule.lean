import Parley.Text.Utf8

/-!
Contract: how the bytes of a text are read in a character set without states.

A rule takes the characters at the start of bytes that are not empty. Bytes that
are malformed there stand for U+FFFD. A byte below 0x80 that breaks a longer
sequence off is read again on its own.

Owns: `Rule`, its reading of bytes, and the taking of pairs.
-/

namespace Parley.Charset

open Parley.Text (Bytes)

abbrev Taken := List Char × Bytes

def malformed (rest : Bytes) : Taken :=
  (['\uFFFD'], rest)

def asciiChar (byte : UInt8) : Char :=
  Char.ofNat byte.toNat

def placeIn? (least most byte : UInt8) : Option Nat :=
  if least ≤ byte ∧ byte ≤ most then some (byte.toNat - least.toNat) else none

/-- A rule to take the characters at the start of bytes, given the first of
them. -/
structure Rule where
  take : UInt8 → Bytes → Taken
  take_length_le :
    ∀ lead rest, (take lead rest).2.length ≤ rest.length

namespace Rule

/-- Reads bytes. `done` holds the characters read before, last first. -/
def decodeOnto (rule : Rule) (done : List Char) : Bytes → List Char
  | [] => done.reverse
  | lead :: rest =>
      let taken := rule.take lead rest
      rule.decodeOnto (taken.1.reverse ++ done) taken.2
termination_by bytes => bytes.length
decreasing_by
  exact Nat.lt_succ_of_le (rule.take_length_le lead rest)

def decode (rule : Rule) (bytes : Bytes) : List Char :=
  rule.decodeOnto [] bytes

end Rule

/-- Takes the second byte of a pair, given the characters that it makes with the
first one. -/
def takePair (chars? : UInt8 → Option (List Char)) : Bytes → Taken
  | [] => malformed []
  | trail :: rest =>
      match chars? trail with
      | some chars => (chars, rest)
      | none => malformed (if trail < 0x80 then trail :: rest else rest)

theorem takePair_length_le (chars? : UInt8 → Option (List Char))
    (bytes : Bytes) : (takePair chars? bytes).2.length ≤ bytes.length := by
  unfold takePair malformed
  split
  · simp
  · split
    · simp
    · dsimp only
      split <;> simp

end Parley.Charset
