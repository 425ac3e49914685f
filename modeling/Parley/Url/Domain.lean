import Parley.Text.Composition
import Parley.Text.Utf8
import Parley.Url.Domain.Direction
import Parley.Url.Domain.Joiner
import Parley.Url.Domain.Mapping
import Parley.Url.Domain.Punycode

/-!
Contract: domain names in ASCII form.

The characters of a name are replaced by those they stand for and the text is
composed. A label that is marked as encoded is decoded and must hold what no
replacement would change. Labels with characters beyond ASCII are encoded.

Owns: `toAscii?`.
-/

namespace Parley.Url.Domain

open Parley.Text (Bytes Composition.compose Mark.isNonspacing Mark.isSpacing
  Utf8.decode? splitAt)

/-- The ASCII characters that no host may have. -/
def isForbidden (char : Char) : Bool :=
  char.toNat ≤ 0x20 || char.toNat == 0x7F ||
    ['%', '#', '/', ':', '<', '>', '?', '@', '[', '\\', ']', '^',
      '|'].contains char

def isAscii (text : List Char) : Bool :=
  text.all (·.toNat < 0x80)

def encodedMark : List Char := ['x', 'n', '-', '-']

/-- How many characters an encoded label and a label to encode may have. -/
def longestEncoded : Nat := 2000
def longestPlain : Nat := 1000

/-- The label that the text after the mark stands for. It holds something beyond
ASCII and is spelled as no replacement would change it. -/
def decodeLabel? (text : List Char) : Option (List Char) :=
  if !isAscii text || longestEncoded < text.length then none
  else
    (Punycode.decode? text).filter fun label =>
      !isAscii label && label.all Mapping.isKept &&
        Composition.compose label == label

def plainLabel? (label : List Char) : Option (List Char) :=
  if encodedMark.isPrefixOf label then
    decodeLabel? (label.drop encodedMark.length)
  else some label

def isAdmissible (label : List Char) : Bool :=
  !(label.head?.any fun char =>
      Mark.isNonspacing char || Mark.isSpacing char) &&
    !encodedMark.isPrefixOf label && !label.any isForbidden &&
    joinersFit [] label && (isAscii label || label.length ≤ longestPlain)

def encodeLabel (label : List Char) : List Char :=
  if isAscii label then label else encodedMark ++ Punycode.encode label

def mapName? (name : List Char) : Option (List Char) :=
  (name.mapM Mapping.map?).map fun parts =>
    Composition.compose parts.flatten

/-- The labels of a name, if they are admissible one by one and together. -/
def labels? (name : List Char) : Option (List (List Char)) :=
  match (splitAt '.' name).mapM plainLabel? with
  | none => none
  | some labels =>
      if labels.all isAdmissible && keepsDirection labels then some labels
      else none

/-- The ASCII form of a domain name given by its bytes, if it is one. -/
def toAscii? (bytes : Bytes) : Option (List Char) :=
  match Utf8.decode? bytes with
  | none => none
  | some name =>
      ((mapName? name.toList).bind labels?).map fun labels =>
        ((labels.map encodeLabel).intersperse ['.']).flatten

end Parley.Url.Domain
