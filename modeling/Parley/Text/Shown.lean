import Parley.Text.Unshown

/-!
Contract: text as it is shown to a person debugging, in double quotes and with
escapes for everything that would not be seen as itself.

Owns: `quoted`.
-/

namespace Parley.Text

def codeEscape (char : Char) : List Char :=
  ['\\', 'u', '\x7b'] ++ Nat.toDigits 16 char.toNat ++ ['\x7d']

def isUnshown (char : Char) : Bool :=
  let code := char.toNat
  if code < 0x80 then code < 0x20 || code == 0x7F
  else unshownRanges.any fun range => range.1 ≤ code && code ≤ range.2

/-- A character inside double quotes. -/
def shownChar (char : Char) : List Char :=
  if char = '\x00' then ['\\', '0']
  else if char = '\t' then ['\\', 't']
  else if char = '\r' then ['\\', 'r']
  else if char = '\n' then ['\\', 'n']
  else if char = '"' then ['\\', '"']
  else if char = '\\' then ['\\', '\\']
  else if isUnshown char then codeEscape char
  else [char]

def quoted (text : String) : String :=
  String.ofList ('"' :: (text.toList.flatMap shownChar ++ ['"']))

end Parley.Text
