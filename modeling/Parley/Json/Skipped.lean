import Parley.Json.Literal
import Parley.Json.Number

/-!
Contract: JSON values that are passed over.

A value that nobody asked for must be well formed, but is not looked at: it may
nest to any depth, its numbers may have any size, and its escapes may denote no
character.

Owns: `skipValue`.
-/

namespace Parley.Json

/-- Passes over an escape, from after the reverse solidus. -/
def skipEscape : List Char → Except Fault (List Char)
  | [] => .error (.before .endOfText [])
  | letter :: rest =>
      if letter = 'u' then (readUnit rest).map Prod.snd
      else if (shortEscaped? letter).isSome then .ok rest
      else .error (.upon .invalidEscape (letter :: rest))

theorem skipEscape_length {text rest : List Char}
    (skipped : skipEscape text = .ok rest) : rest.length < text.length := by
  unfold skipEscape at skipped
  split at skipped
  · cases skipped
  · rename_i letter more
    split at skipped
    · cases unitRead : readUnit more with
      | error fault => simp [unitRead, Except.map] at skipped
      | ok result =>
          have : result.2.length ≤ more.length := readUnit_length unitRead
          simp only [unitRead, Except.map, Except.ok.injEq] at skipped
          rw [← skipped, List.length_cons]
          omega
    · split at skipped <;> cases skipped
      simp

/-- Passes over a string literal, from after its opening quote. -/
def skipLiteral : List Char → Except Fault (List Char)
  | [] => .error (.before .endOfText [])
  | char :: rest =>
      if char = '"' then .ok rest
      else if char = '\\' then
        match skipped : skipEscape rest with
        | .error fault => .error fault
        | .ok next =>
            have := skipEscape_length skipped
            skipLiteral next
      else if char.toNat < 0x20 then
        .error (.before .controlCharacter (char :: rest))
      else skipLiteral rest
termination_by text => text.length
decreasing_by
  · simp only [List.length_cons]
    omega
  · simp

/-- Passes over an exponent, from after its marker. -/
def skipExponent (text : List Char) : Except Fault (List Char) :=
  let digits := (exponentSign text).2
  if startsWithDigit digits then .ok (digits.dropWhile Char.isDigit)
  else .error (.upon .invalidNumber digits)

def skipOptionalExponent : List Char → Except Fault (List Char)
  | [] => .ok []
  | char :: rest =>
      if char = 'e' ∨ char = 'E' then skipExponent rest else .ok (char :: rest)

/-- Passes over what follows the whole part of a number. -/
def skipAfterWhole : List Char → Except Fault (List Char)
  | [] => .ok []
  | char :: rest =>
      if char = '.' then
        if startsWithDigit rest then
          skipOptionalExponent (rest.dropWhile Char.isDigit)
        else .error (.upon .invalidNumber rest)
      else skipOptionalExponent (char :: rest)

/-- Passes over a number, from after its sign. -/
def skipMagnitude : List Char → Except Fault (List Char)
  | [] => .error (.upon .invalidNumber [])
  | char :: rest =>
      if char = '0' then
        if startsWithDigit rest then .error (.upon .invalidNumber rest)
        else skipAfterWhole rest
      else if char.isDigit then skipAfterWhole (rest.dropWhile Char.isDigit)
      else .error (.upon .invalidNumber (char :: rest))

def skipScalar : List Char → Except Fault (List Char)
  | [] => .error (.upon .endOfValue [])
  | char :: rest =>
      if char = 'n' then readWord ['u', 'l', 'l'] rest
      else if char = 't' then readWord ['r', 'u', 'e'] rest
      else if char = 'f' then readWord ['a', 'l', 's', 'e'] rest
      else if char = '"' then skipLiteral rest
      else if char = '-' then skipMagnitude rest
      else if char.isDigit then skipMagnitude (char :: rest)
      else .error (.upon .expectedValue (char :: rest))

def skipKey (text : List Char) : Except Fault (List Char) :=
  match skipBlank text with
  | [] => .error (.upon .endOfObject [])
  | char :: rest =>
      if char = '"' then skipLiteral rest >>= readColon
      else .error (.upon .keyNotText (char :: rest))

theorem dropWhile_length (test : Char → Bool) (text : List Char) :
    (text.dropWhile test).length ≤ text.length :=
  (List.dropWhile_suffix test).length_le

theorem readWord_length {word text rest : List Char}
    (read : readWord word text = .ok rest) : rest.length ≤ text.length := by
  induction word generalizing text with
  | nil =>
      cases read
      exact Nat.le_refl _
  | cons expected word inductionHypothesis =>
      cases text with
      | nil => cases read
      | cons char more =>
          simp only [readWord] at read
          split at read
          · exact Nat.le_succ_of_le (inductionHypothesis read)
          · cases read

theorem skipLiteral_length {text rest : List Char}
    (skipped : skipLiteral text = .ok rest) : rest.length < text.length := by
  fun_induction skipLiteral text with
  | case1 => cases skipped
  | case2 => cases skipped; simp
  | case3 => cases skipped
  | case4 rest escaped next nextRead shorter inductionHypothesis =>
      have := inductionHypothesis skipped
      simp only [List.length_cons]
      omega
  | case5 => cases skipped
  | case6 char rest notQuote notEscape notControl inductionHypothesis =>
      exact Nat.lt_succ_of_lt (inductionHypothesis skipped)

theorem exponentSign_length (text : List Char) :
    (exponentSign text).2.length ≤ text.length := by
  unfold exponentSign
  split <;> simp

theorem skipExponent_length {text rest : List Char}
    (skipped : skipExponent text = .ok rest) : rest.length ≤ text.length := by
  simp only [skipExponent] at skipped
  split at skipped <;> cases skipped
  exact Nat.le_trans (dropWhile_length _ _) (exponentSign_length text)

theorem skipOptionalExponent_length {text rest : List Char}
    (skipped : skipOptionalExponent text = .ok rest) :
    rest.length ≤ text.length := by
  unfold skipOptionalExponent at skipped
  split at skipped
  · cases skipped; simp
  · split at skipped
    · exact Nat.le_succ_of_le (skipExponent_length skipped)
    · cases skipped; simp

theorem skipAfterWhole_length {text rest : List Char}
    (skipped : skipAfterWhole text = .ok rest) : rest.length ≤ text.length := by
  unfold skipAfterWhole at skipped
  split at skipped
  · cases skipped; simp
  · split at skipped
    · split at skipped
      · exact Nat.le_succ_of_le
          (Nat.le_trans (skipOptionalExponent_length skipped)
            (dropWhile_length _ _))
      · cases skipped
    · exact skipOptionalExponent_length skipped

theorem skipMagnitude_length {text rest : List Char}
    (skipped : skipMagnitude text = .ok rest) : rest.length < text.length := by
  unfold skipMagnitude at skipped
  split at skipped
  · cases skipped
  · split at skipped
    · split at skipped
      · cases skipped
      · exact Nat.lt_succ_of_le (skipAfterWhole_length skipped)
    · split at skipped
      · exact Nat.lt_succ_of_le
          (Nat.le_trans (skipAfterWhole_length skipped) (dropWhile_length _ _))
      · cases skipped

theorem skipScalar_length {text rest : List Char}
    (skipped : skipScalar text = .ok rest) : rest.length < text.length := by
  unfold skipScalar at skipped
  split at skipped
  · cases skipped
  · repeat'
      first
        | split at skipped
        | exact Nat.lt_succ_of_le (readWord_length skipped)
        | exact Nat.lt_succ_of_lt (skipLiteral_length skipped)
        | exact Nat.lt_succ_of_lt (skipMagnitude_length skipped)
        | exact skipMagnitude_length skipped
        | cases skipped

theorem readColon_length {text rest : List Char}
    (read : readColon text = .ok rest) : rest.length < text.length := by
  unfold readColon at read
  have blank : (skipBlank text).length ≤ text.length := dropWhile_length _ _
  split at read
  · rename_i more found
    cases read
    rw [found] at blank
    exact blank
  · cases read
  · cases read

theorem skipKey_length {text rest : List Char}
    (skipped : skipKey text = .ok rest) : rest.length < text.length := by
  unfold skipKey at skipped
  have blank : (skipBlank text).length ≤ text.length := dropWhile_length _ _
  split at skipped
  · cases skipped
  · rename_i char more found
    rw [found, List.length_cons] at blank
    split at skipped
    · cases literal : skipLiteral more with
      | error fault => simp [literal, bind, Except.bind] at skipped
      | ok next =>
          simp only [literal, bind, Except.bind] at skipped
          have := skipLiteral_length literal
          have := readColon_length skipped
          omega
    · cases skipped

inductive Frame where
  | list
  | object
deriving DecidableEq

def Frame.closing : Frame → Char
  | .list => ']'
  | .object => '\x7d'

def Frame.unfinished : Frame → Cause
  | .list => .endOfList
  | .object => .endOfObject

def Frame.missingComma : Frame → Cause
  | .list => .expectedListComma
  | .object => .expectedObjectComma

/-- Goes to the value of the next entry of a frame. -/
def Frame.enterEntry (text : List Char) : Frame → Except Fault (List Char)
  | .list => .ok text
  | .object => skipKey text

theorem Frame.enterEntry_length {frame : Frame} {text rest : List Char}
    (entered : frame.enterEntry text = .ok rest) :
    rest.length ≤ text.length := by
  cases frame with
  | list =>
      cases entered
      exact Nat.le_refl _
  | object => exact Nat.le_of_lt (skipKey_length entered)

mutual

/-- Passes over a value and then over what is left of the open frames around it,
innermost first. -/
def skipInside (frames : List Frame) (text : List Char) :
    Except Fault (List Char) :=
  match found : skipBlank text with
  | [] => .error (.upon .endOfValue [])
  | char :: rest =>
      have : rest.length < text.length := by
        have blank : (skipBlank text).length ≤ text.length :=
          dropWhile_length _ _
        rw [found] at blank
        exact blank
      if char = '[' then skipOpened .list frames rest
      else if char = '\x7b' then skipOpened .object frames rest
      else
        match skipped : skipScalar (char :: rest) with
        | .error fault => .error fault
        | .ok next =>
            have := skipScalar_length skipped
            skipOut frames next
termination_by (text.length, 0)
decreasing_by
  · exact Prod.Lex.left _ _ this
  · exact Prod.Lex.left _ _ this
  · apply Prod.Lex.left
    simp only [List.length_cons] at *
    omega

/-- Passes over a frame, from after its opening, and over the frames around
it. -/
def skipOpened (frame : Frame) (frames : List Frame) (text : List Char) :
    Except Fault (List Char) :=
  match found : skipBlank text with
  | [] => .error (.upon frame.unfinished [])
  | char :: rest =>
      have blank : rest.length + 1 ≤ text.length := by
        have blank : (skipBlank text).length ≤ text.length :=
          dropWhile_length _ _
        rw [found] at blank
        exact blank
      if char = frame.closing then skipOut frames rest
      else
        match entered : frame.enterEntry (char :: rest) with
        | .error fault => .error fault
        | .ok next =>
            have := Frame.enterEntry_length entered
            skipInside (frame :: frames) next
termination_by (text.length, 1)
decreasing_by
  · exact Prod.Lex.left _ _ blank
  · simp only [List.length_cons] at this
    rcases Nat.lt_or_eq_of_le (Nat.le_trans this blank) with shorter | same
    · exact Prod.Lex.left _ _ shorter
    · rw [same]
      exact Prod.Lex.right _ Nat.zero_lt_one

/-- Passes over what is left of the open frames after an entry of the innermost
one. -/
def skipOut (frames : List Frame) (text : List Char) :
    Except Fault (List Char) :=
  match frames with
  | [] => .ok text
  | frame :: outer =>
      match found : skipBlank text with
      | [] => .error (.upon frame.unfinished [])
      | char :: rest =>
          have blank : rest.length < text.length := by
            have blank : (skipBlank text).length ≤ text.length :=
              dropWhile_length _ _
            rw [found] at blank
            exact blank
          if char = ',' then
            match entered : frame.enterEntry rest with
            | .error fault => .error fault
            | .ok next =>
                have := Frame.enterEntry_length entered
                skipInside (frame :: outer) next
          else if char = frame.closing then skipOut outer rest
          else .error (.upon frame.missingComma (char :: rest))
termination_by (text.length, 0)
decreasing_by
  · exact Prod.Lex.left _ _ (Nat.lt_of_le_of_lt this blank)
  · exact Prod.Lex.left _ _ blank

end

def skipValue (text : List Char) : Except Fault (List Char) :=
  skipInside [] text

end Parley.Json
