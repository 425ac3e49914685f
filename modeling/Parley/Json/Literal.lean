import Parley.Json.Token
import Parley.Text.Numeral

/-!
Contract: JSON string literals.

Escapes by code unit must denote characters: a leading surrogate is followed by
the escape of a trailing one, and a trailing surrogate never stands alone.

Owns: `readLiteral`.
-/

namespace Parley.Json

/-- The number that four hexadecimal digits spell. -/
def hexUnit? (digits : List Char) : Option Nat :=
  if digits.length = 4 then Text.numberIn? 16 digits else none

/-- Reads the four digits of an escape by code unit. The digits are looked for
in the next four bytes, whatever characters these belong to. -/
def readUnit (text : List Char) : Except Fault (Nat × List Char) :=
  let digits := text.take 4
  if (String.ofList digits).utf8ByteSize < 4 then .error (.before .endOfText [])
  else
    match hexUnit? digits with
    | some unit => .ok (unit, text.drop 4)
    | none => .error ⟨.invalidEscape, text, 4⟩

def isLeading (unit : Nat) : Bool :=
  0xD800 ≤ unit && unit ≤ 0xDBFF

def isTrailing (unit : Nat) : Bool :=
  0xDC00 ≤ unit && unit ≤ 0xDFFF

def pairChar (leading trailing : Nat) : Char :=
  Char.ofNat (0x10000 + (leading - 0xD800) * 0x400 + (trailing - 0xDC00))

def readMark (mark : Char) : List Char → Except Fault (List Char)
  | [] => .error (.before .endOfText [])
  | char :: rest =>
      if char = mark then .ok rest
      else .error (.upon .unfinishedEscape (char :: rest))

def readPair (leading : Nat) (text : List Char) : Reading Char :=
  match readMark '\\' text >>= readMark 'u' with
  | .error fault => .error fault
  | .ok marked =>
      match readUnit marked with
      | .error fault => .error fault
      | .ok (trailing, rest) =>
          if isTrailing trailing then .ok (pairChar leading trailing, rest)
          else .error (.before .loneSurrogate rest)

/-- Reads an escape by code unit, from after its marks. -/
def readCodeEscape (text : List Char) : Reading Char :=
  match readUnit text with
  | .error fault => .error fault
  | .ok (unit, rest) =>
      if isTrailing unit then .error (.before .loneSurrogate rest)
      else if isLeading unit then readPair unit rest
      else .ok (Char.ofNat unit, rest)

def shortEscaped? (letter : Char) : Option Char :=
  if letter = '"' ∨ letter = '\\' ∨ letter = '/' then some letter
  else if letter = 'b' then some '\x08'
  else if letter = 'f' then some '\x0c'
  else if letter = 'n' then some '\n'
  else if letter = 'r' then some '\r'
  else if letter = 't' then some '\t'
  else none

def readEscape : List Char → Reading Char
  | [] => .error (.before .endOfText [])
  | letter :: rest =>
      if letter = 'u' then readCodeEscape rest
      else
        match shortEscaped? letter with
        | some char => .ok (char, rest)
        | none => .error (.upon .invalidEscape (letter :: rest))

theorem readUnit_length {text rest : List Char} {unit : Nat}
    (read : readUnit text = .ok (unit, rest)) : rest.length ≤ text.length := by
  simp only [readUnit] at read
  split at read
  · cases read
  · split at read <;> cases read
    simp

theorem readMark_length {mark : Char} {text rest : List Char}
    (read : readMark mark text = .ok rest) : rest.length ≤ text.length := by
  cases text with
  | nil => cases read
  | cons char more =>
      simp only [readMark] at read
      split at read <;> cases read
      simp

theorem readMarks_length {text rest : List Char}
    (read : (readMark '\\' text >>= readMark 'u') = .ok rest) :
    rest.length ≤ text.length := by
  cases first : readMark '\\' text with
  | error fault => simp [first, bind, Except.bind] at read
  | ok middle =>
      simp only [first, bind, Except.bind] at read
      exact Nat.le_trans (readMark_length read) (readMark_length first)

theorem readCodeEscape_length {text rest : List Char} {char : Char}
    (read : readCodeEscape text = .ok (char, rest)) :
    rest.length ≤ text.length := by
  unfold readCodeEscape at read
  split at read
  · cases read
  · rename_i unit afterUnit unitRead
    have unitLength := readUnit_length unitRead
    split at read
    · cases read
    · split at read
      · unfold readPair at read
        split at read
        · cases read
        · rename_i marked marksRead
          have marksLength := readMarks_length marksRead
          split at read
          · cases read
          · rename_i trailing afterPair pairRead
            have pairLength := readUnit_length pairRead
            split at read
            · simp only [Except.ok.injEq, Prod.mk.injEq] at read
              rw [← read.2]
              omega
            · cases read
      · simp only [Except.ok.injEq, Prod.mk.injEq] at read
        rw [← read.2]
        exact unitLength

theorem readEscape_length {text rest : List Char} {char : Char}
    (read : readEscape text = .ok (char, rest)) :
    rest.length < text.length := by
  unfold readEscape at read
  split at read
  · cases read
  · rename_i letter more
    split at read
    · have := readCodeEscape_length read
      simp only [List.length_cons]
      omega
    · split at read <;> cases read
      simp

/-- Reads the characters of a literal up to its closing quote and adds them to
those in `taken`, which is held last first. -/
def readCharsOnto (taken : List Char) : List Char → Reading String
  | [] => .error (.before .endOfText [])
  | char :: rest =>
      if char = '"' then .ok (String.ofList taken.reverse, rest)
      else if char = '\\' then
        match read : readEscape rest with
        | .error fault => .error fault
        | .ok (escaped, next) =>
            have := readEscape_length read
            readCharsOnto (escaped :: taken) next
      else if char.toNat < 0x20 then
        .error (.upon .controlCharacter (char :: rest))
      else readCharsOnto (char :: taken) rest
termination_by text => text.length
decreasing_by
  · simp only [List.length_cons]
    omega
  · simp

def readLiteral (text : List Char) : Reading String :=
  readCharsOnto [] text

end Parley.Json
