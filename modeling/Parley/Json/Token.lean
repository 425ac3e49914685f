import Parley.Json.Fault

/-!
Contract: the parts of JSON text that carry no content of their own.

Owns: blanks between tokens, the three words, and the separators inside lists
and objects.
-/

namespace Parley.Json

def isBlank (char : Char) : Bool :=
  char == ' ' || char == '\t' || char == '\n' || char == '\r'

def skipBlank (text : List Char) : List Char :=
  text.dropWhile isBlank

def readWord : List Char → List Char → Except Fault (List Char)
  | [], text => .ok text
  | _ :: _, [] => .error (.before .endOfValue [])
  | expected :: word, char :: rest =>
      if char = expected then readWord word rest
      else .error (.upon .expectedWord (char :: rest))

def readColon (text : List Char) : Except Fault (List Char) :=
  match skipBlank text with
  | ':' :: rest => .ok rest
  | [] => .error (.upon .endOfObject [])
  | rest => .error (.upon .expectedColon rest)

/-- Goes to the next item of a list: `true` with the text of the item, or
`false` with the text from the closing bracket on. -/
def nextItem (first : Bool) (text : List Char) :
    Except Fault (Bool × List Char) :=
  match skipBlank text with
  | [] => .error (.upon .endOfList [])
  | ']' :: rest => .ok (false, ']' :: rest)
  | char :: rest =>
      if first then .ok (true, char :: rest)
      else if char = ',' then
        match skipBlank rest with
        | [] => .error (.upon .endOfValue [])
        | ']' :: more => .error (.upon .trailingComma (']' :: more))
        | item => .ok (true, item)
      else .error (.upon .expectedListComma (char :: rest))

/-- Goes to the next key of an object: `true` with the text after the opening
quote of the key, or `false` with the text from the closing brace on. -/
def nextKey (first : Bool) (text : List Char) :
    Except Fault (Bool × List Char) :=
  match skipBlank text with
  | [] => .error (.upon .endOfObject [])
  | '\x7d' :: rest => .ok (false, '\x7d' :: rest)
  | char :: rest =>
      if first then
        if char = '"' then .ok (true, rest)
        else .error (.upon .keyNotText (char :: rest))
      else if char = ',' then
        match skipBlank rest with
        | [] => .error (.upon .endOfValue [])
        | '"' :: key => .ok (true, key)
        | '\x7d' :: more => .error (.upon .trailingComma ('\x7d' :: more))
        | other => .error (.upon .keyNotText other)
      else .error (.upon .expectedObjectComma (char :: rest))

def closeList (text : List Char) : Except Fault (List Char) :=
  match skipBlank text with
  | ']' :: rest => .ok rest
  | ',' :: rest =>
      match skipBlank rest with
      | ']' :: more => .error (.upon .trailingComma (']' :: more))
      | other => .error (.upon .trailingCharacters other)
  | [] => .error (.upon .endOfList [])
  | other => .error (.upon .trailingCharacters other)

def closeObject (text : List Char) : Except Fault (List Char) :=
  match skipBlank text with
  | '\x7d' :: rest => .ok rest
  | ',' :: rest => .error (.upon .trailingComma (',' :: rest))
  | [] => .error (.upon .endOfObject [])
  | other => .error (.upon .trailingCharacters other)

def closeText {α : Type} : Reading α → Except Fault α
  | .error fault => .error fault
  | .ok (value, text) =>
      match skipBlank text with
      | [] => .ok value
      | rest => .error (.upon .trailingCharacters rest)

end Parley.Json
