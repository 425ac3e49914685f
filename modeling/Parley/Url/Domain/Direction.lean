import Parley.Text.Mark

/-!
Contract: domain names in which text is written from right to left.

If a label of a name is written from right to left, every label starts with a
letter, keeps to the direction of that letter, and ends with a letter or a
number, not counting marks. Numbers of two kinds do not occur in one label.

Owns: `Direction`, `Direction.of` and `keepsDirection`.
-/

namespace Parley.Url.Domain

open Parley.Text (CodePoints)

/-- How a character takes part in the direction of a text: letters of either
direction, the two kinds of numbers, marks, which follow the character before
them, and all others. -/
inductive Direction where
  | left
  | right
  | european
  | arabic
  | mark
  | weak
deriving DecidableEq, Repr

namespace Direction

/-- The code points of letters that are written from right to left. -/
def rightRanges : List String := [
    "590-5FF 608 60B 60D 61B-64A 66D-6D5 6E5-6E6 6EE-6EF 6FA-7F5 7FA-8C9",
    "FB37-FBC2 FE73-FEFE 10800-1091E 10920-10B38 10B40-10D2F 10D3A-10D3F",
    "10D4A-10D68 10D6F-10E5F 10E7F-10ECF 10ED9-10FFF 1E800-1EEEF 1EEF2-1EFFF"]

/-- The code points of numbers that are written with such letters. -/
def arabicRanges : List String := [
    "660-669 66B-66C 10D30-10D39 10D40-10D49 10E60-10E7E"]

/-- The code points of numbers of the other kind. -/
def europeanRanges : List String := [
    "30-39 6F0-6F9 102E1-102FB"]

/-- The code points of characters without a direction of their own. -/
def weakRanges : List String := [
    "0-2F 3A-60 7B-D7 F7 2B9-2BA 2C2-2CF 2D2-2ED 2EF-2FF 375 3F6 58A 58D-58F",
    "606-607 609-60A 60C 60E-60F 66A 6DE 6E9 7F6-7F9 9F2-9F3 9FB AF1 BF3-BFA",
    "C78-C7E E3F F3A-F3D 1390-1399 1400 169B-169C 17DB 17F0-17F9 1800-180A 1940",
    "1944-1945 19DE-19FF 200C-2065 20A0-20CF 2104-214D 218A-218B 2190-2335",
    "237B-2394 2396-2429 2440-244A 24EB-26AB 26AD-27FF 2900-2B73 2B76-2BFF",
    "2CE5-2CEA 2CF9-2CFF 2E00-2E5D 2E80-2E99 2E9B-2EF2 3001-3004 3008-3020 3030",
    "3037 303D-303F 30A0 30FB 31C0-31E5 4DC0-4DFF A490-A4C6 A60D-A60F A673-A67F",
    "A700-A721 A788 A828-A82B A838-A839 A874-A877 AB6A-AB6B FBC3-FDFF FE45-FE46",
    "FFF0-FFF8 10101 10140-1018C 10190-1019C 101A0 1091F 10B39-10B3F 10D6E",
    "10ED0-10ED8 11052-11065 11660-1166C 11FD5-11FF1 16FE2 1CC00-1CCFC",
    "1CD00-1CEB3 1CEBA-1CED0 1CEE0-1CEF0 1D1E9-1D1EA 1D200-1D245 1D300-1D356",
    "1E2FF 1EEF0-1EEF1 1F000-1F02B 1F030-1F093 1F0A0-1F0AE 1F0B1-1F0BF",
    "1F0C1-1F0CF 1F0D1-1F0F5 1F10B-1F12F 1F16D-1F16F 1F1AD 1F260-1F265",
    "1F300-1F6D8 1F6DC-1F6EC 1F6F0-1F6FC 1F700-1F7D9 1F7E0-1F7EB 1F7F0",
    "1F800-1F80B 1F810-1F847 1F850-1F859 1F860-1F887 1F890-1F8AD 1F8B0-1F8BB",
    "1F8C0-1F8C1 1F8D0-1F8D8 1F900-1FA57 1FA60-1FA6D 1FA70-1FA7C 1FA80-1FA8A",
    "1FA8E-1FAC6 1FAC8 1FACD-1FADC 1FADF-1FAEA 1FAEF-1FAF8 1FB00-1FB92",
    "1FB94-1FBFA E0000-E0FFF"]

/-- The code points of marks that count as letters. -/
def letterMarkRanges : List String := [
    "CBF CC6 11A07 11A08 11C3F"]

/-- The tables of the directions other than from left to right. -/
def tables : List (Direction × CodePoints) :=
  [(right, .ofText rightRanges), (arabic, .ofText arabicRanges),
    (european, .ofText europeanRanges), (weak, .ofText weakRanges)]

def letterMarks : CodePoints := .ofText letterMarkRanges

def ofBase (char : Char) : Direction :=
  ((tables.find? fun entry => entry.2.contains char).map (·.1)).getD left

def of (char : Char) : Direction :=
  if Text.Mark.isNonspacing char then
    if letterMarks.contains char then left else mark
  else ofBase char

/-- Whether a character makes its label one that is written from right to
left. -/
def turns (direction : Direction) : Bool :=
  direction == right || direction == arabic

end Direction

def lastDirection? (directions : List Direction) : Option Direction :=
  directions.reverse.find? (· != .mark)

/-- Whether a label that starts with a letter from right to left keeps to this
direction. -/
def keepsRight (directions : List Direction) : Bool :=
  !directions.contains .left &&
    !(directions.contains .european && directions.contains .arabic) &&
    (lastDirection? directions).any fun last =>
      [.right, .european, .arabic].contains last

/-- Whether a label that starts with a letter from left to right keeps to this
direction. -/
def keepsLeft (directions : List Direction) : Bool :=
  !directions.any Direction.turns &&
    (lastDirection? directions).any fun last =>
      [.left, .european].contains last

def labelKeepsDirection (label : List Char) : Bool :=
  let directions := label.map Direction.of
  match directions with
  | [] => true
  | .left :: _ => keepsLeft directions
  | .right :: _ => keepsRight directions
  | _ => false

/-- Whether the directions in each label of a name go together. They always do
where nothing is written from right to left. -/
def keepsDirection (labels : List (List Char)) : Bool :=
  !(labels.any fun label => label.any fun char => (Direction.of char).turns) ||
    labels.all labelKeepsDirection

end Parley.Url.Domain
