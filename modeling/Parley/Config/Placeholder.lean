/-!
Contract: placeholders for variables of the environment.

A placeholder is a dollar sign and a name in braces; names are of capital
letters, digits and underscores and start with no digit. A text is cut into its
placeholders and what stands between them in one pass from the left, and
substituted values are not looked at again.

Owns: `pieces`, `variableNames` and `interpolate`.
-/

namespace Parley.Config.Placeholder

def startsName (char : Char) : Bool :=
  char.isUpper || char == '_'

def continuesName (char : Char) : Bool :=
  startsName char || char.isDigit

/-- The name of the placeholder that a text starts with, and the text after
it. -/
def leading? : List Char → Option (List Char × List Char)
  | '$' :: '\x7b' :: first :: rest =>
      if startsName first then
        match rest.dropWhile continuesName with
        | '\x7d' :: after =>
            some (first :: rest.takeWhile continuesName, after)
        | _ => none
      else none
  | _ => none

/-- A part of a text: a character that stands for itself, or a placeholder. -/
inductive Piece where
  | char (value : Char)
  | reference (name : List Char)
deriving DecidableEq, Repr

theorem leading?_length {text name rest : List Char}
    (found : leading? text = some (name, rest)) :
    rest.length < text.length := by
  unfold leading? at found
  split at found
  · rename_i first more
    split at found
    · split at found
      · rename_i after ending
        cases found
        have : (more.dropWhile continuesName).length ≤ more.length :=
          (List.dropWhile_suffix continuesName).length_le
        rw [ending] at this
        simp only [List.length_cons] at this ⊢
        omega
      · cases found
    · cases found
  · cases found

def pieces (text : List Char) : List Piece :=
  match found : leading? text with
  | some (name, rest) =>
      have := leading?_length found
      .reference name :: pieces rest
  | none =>
      match text with
      | [] => []
      | char :: rest => .char char :: pieces rest
termination_by text.length

def Piece.name? : Piece → Option String
  | .reference name => some (String.ofList name)
  | .char _ => none

def variableNames (text : String) : List String :=
  (pieces text.toList).filterMap Piece.name?

/-- The values of the variables that are set. -/
abbrev Environment := String → Option String

/-- What a piece stands for, or the name of a variable that is not set. -/
def Piece.expand (environment : Environment) :
    Piece → Except String (List Char)
  | .char value => .ok [value]
  | .reference name =>
      match environment (String.ofList name) with
      | some value => .ok value.toList
      | none => .error (String.ofList name)

/-- The text with every placeholder replaced by the value of its variable, or the
name of the first variable that is not set. -/
def interpolate (environment : Environment) (text : String) :
    Except String String :=
  ((pieces text.toList).mapM (Piece.expand environment)).map fun parts =>
    String.ofList parts.flatten

end Parley.Config.Placeholder
