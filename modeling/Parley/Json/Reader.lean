import Parley.Json.Skipped

/-!
Contract: reading JSON values.

Containers may nest 127 deep. The members of an object are kept in the order of
their keys, and the last of several members with one key is kept.

Owns:
- `readItems` and `foldMembers`, the walks through lists and objects, which
  readers of typed data share;
- `readScalar?`, `readValue` and `Value.parse`.
-/

namespace Parley.Json

variable {α σ ρ : Type}

/-- How many containers of a text may be open at a time. -/
def depthLimit : Nat := 127

/-- Reads the items of a list up to and including its closing bracket, each with
`item`. Every item is followed by a comma or a bracket, so the length of the
text bounds their number. -/
def readItems (item : List Char → Reading α) :
    Nat → Bool → List Char → Reading (List α)
  | 0, _, text => .error (.upon .endOfList text)
  | bound + 1, first, text =>
      match nextItem first text with
      | .error fault => .error fault
      | .ok (false, rest) => .ok ([], rest.tail)
      | .ok (true, start) =>
          match item start with
          | .error fault => .error fault
          | .ok (value, rest) =>
              (readItems item bound false rest).map fun (values, after) =>
                (value :: values, after)

/-- Walks through the members of an object up to its closing brace. `member`
takes the state, a key, and the text after the key; it may refuse the member,
which ends the walk. -/
def foldMembers (member : σ → String → List Char → Reading (Except ρ σ)) :
    Nat → Bool → σ → List Char → Reading (Except ρ σ)
  | 0, _, _, text => .error (.upon .endOfObject text)
  | bound + 1, first, state, text =>
      match nextKey first text with
      | .error fault => .error fault
      | .ok (false, rest) => .ok (.ok state, rest)
      | .ok (true, start) =>
          match readLiteral start with
          | .error fault => .error fault
          | .ok (key, afterKey) =>
              match member state key afterKey with
              | .error fault => .error fault
              | .ok (.error refusal, rest) => .ok (.error refusal, rest)
              | .ok (.ok next, rest) => foldMembers member bound false next rest

/-- Reads a value that holds no other values. There is none if the text does not
start like one. -/
def readScalar? : List Char → Option (Reading Value)
  | [] => none
  | char :: rest =>
      let word (letters : List Char) (value : Value) : Reading Value :=
        (readWord letters rest).map fun after => (value, after)
      if char = 'n' then some (word ['u', 'l', 'l'] .null)
      else if char = 't' then some (word ['r', 'u', 'e'] (.boolean true))
      else if char = 'f' then
        some (word ['a', 'l', 's', 'e'] (.boolean false))
      else if char = '"' then
        some ((readLiteral rest).map fun (text, after) => (.text text, after))
      else if char = '-' ∨ char.isDigit then
        some ((readNumber (char :: rest)).map fun (number, after) =>
          (.number number, after))
      else none

def keepMember (value : List Char → Reading Value)
    (members : List (String × Value)) (key : String) (text : List Char) :
    Reading (Except Empty (List (String × Value))) :=
  match readColon text with
  | .error fault => .error fault
  | .ok start =>
      (value start).map fun (held, after) =>
        (.ok (insertMember key held members), after)

/-- Reads the members of an object with every value read by `value`, up to and
including its closing brace. -/
def readMembers (value : List Char → Reading Value) (text : List Char) :
    Reading (List (String × Value)) :=
  match foldMembers (keepMember value) text.length true [] text with
  | .error fault => .error fault
  | .ok (.error refusal, _) => nomatch refusal
  | .ok (.ok members, rest) => (closeObject rest).map (Prod.mk members)

def readValueWith (list : List Char → Reading (List Value))
    (object : List Char → Reading (List (String × Value)))
    (text : List Char) : Reading Value :=
  match skipBlank text with
  | [] => .error (.upon .endOfValue [])
  | char :: rest =>
      match readScalar? (char :: rest) with
      | some reading => reading
      | none =>
          if char = '[' then
            (list (char :: rest)).map fun (items, after) =>
              (.sequence items, after)
          else if char = '\x7b' then
            (object (char :: rest)).map fun (members, after) =>
              (.object members, after)
          else .error (.upon .expectedValue (char :: rest))

/-- Reads a value in which at most `allowance` containers are open at a time. -/
def readValue : Nat → List Char → Reading Value
  | 0 =>
      readValueWith (fun text => .error (.upon .nestedTooDeep text))
        (fun text => .error (.upon .nestedTooDeep text))
  | allowance + 1 =>
      readValueWith
        (fun text =>
          readItems (readValue allowance) text.length true text.tail)
        (fun text => readMembers (readValue allowance) text.tail)

def Value.parse (text : String) : Except LocatedFault Value :=
  (closeText (readValue depthLimit text.toList)).mapError
    (Fault.locate text.toList)

end Parley.Json
