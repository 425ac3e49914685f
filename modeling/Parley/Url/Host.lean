import Parley.Text.Parts
import Parley.Url.Domain
import Parley.Url.Percent

/-!
Contract: the hosts of addresses.

A host whose last part is a number is an IPv4 address, whose numbers may be
written decimal, octal or hexadecimal, and whose last number fills the bytes that
the others leave. A host in brackets is an IPv6 address.

Owns: `Host`, its parser and its text.
-/

namespace Parley.Url

open Parley.Text (numberIn? splitAt)

inductive Fault where
  | relative
  | emptyHost
  | invalidPort
  | invalidIpv4
  | invalidIpv6
  | invalidDomain
  | invalidCharacter
deriving DecidableEq, Repr

def Fault.message : Fault → String
  | .relative => "relative URL without a base"
  | .emptyHost => "empty host"
  | .invalidPort => "invalid port number"
  | .invalidIpv4 => "invalid IPv4 address"
  | .invalidIpv6 => "invalid IPv6 address"
  | .invalidDomain => "invalid international domain name"
  | .invalidCharacter => "invalid domain character"

/-- A host: a domain name in ASCII form, the number of an IPv4 address, or the
eight numbers of an IPv6 address. -/
inductive Host where
  | domain (name : List Char)
  | ipv4 (address : Nat)
  | ipv6 (pieces : List Nat)
deriving DecidableEq, Repr

namespace Host

/-- The number that a part of an IPv4 address spells. -/
def ipv4Number? : List Char → Option Nat
  | [] => none
  | '0' :: 'x' :: digits | '0' :: 'X' :: digits => numberIn? 16 digits
  | '0' :: digit :: digits => numberIn? 8 (digit :: digits)
  | digits => numberIn? 10 digits

/-- The parts of a name, without the empty one after a final full stop. -/
def nameParts (name : List Char) : List (List Char) :=
  let parts := splitAt '.' name
  if parts.getLast? = some [] then parts.dropLast else parts

def endsInNumber (name : List Char) : Bool :=
  match (nameParts name).getLast? with
  | none | some [] => false
  | some part => part.all Char.isDigit || (ipv4Number? part).isSome

def ipv4? (name : List Char) : Option Nat :=
  match (nameParts name).mapM ipv4Number? with
  | none => none
  | some numbers =>
      match numbers.reverse with
      | [] => none
      | last :: leading =>
          let bytes := leading.reverse
          if 3 < bytes.length ∨ bytes.any (255 < ·) ∨
              Nat.pow 256 (4 - bytes.length) ≤ last then none
          else
            some (bytes.foldl (· * 256 + ·) 0 *
              Nat.pow 256 (4 - bytes.length) + last)

/-- The bytes of the IPv4 address at the end of an IPv6 address. Their numbers
have no leading zeros. -/
def dottedBytes? (text : List Char) : Option (List Nat) :=
  let parts := splitAt '.' text
  if parts.length ≠ 4 then none
  else
    parts.mapM fun part =>
      if part.isEmpty || !part.all Char.isDigit ||
          (1 < part.length && part.head? == some '0') then none
      else (numberIn? 10 part).filter (· ≤ 255)

/-- The numbers between the colons of an IPv6 address. Only the last part may be
an IPv4 address, which makes two numbers. -/
def ipv6Numbers? : List (List Char) → Option (List Nat)
  | [] => some []
  | part :: rest =>
      if part.contains '.' then
        match rest, dottedBytes? part with
        | [], some [first, second, third, fourth] =>
            some [first * 256 + second, third * 256 + fourth]
        | _, _ => none
      else if part.isEmpty || 4 < part.length then none
      else
        match numberIn? 16 part, ipv6Numbers? rest with
        | some number, some numbers => some (number :: numbers)
        | _, _ => none

/-- The texts before and after the first two colons in a row. -/
def splitGap : List Char → Option (List Char × List Char)
  | ':' :: ':' :: rest => some ([], rest)
  | char :: rest =>
      (splitGap rest).map fun (before, after) => (char :: before, after)
  | [] => none

/-- The numbers of one side of an IPv6 address, of which there may be none. -/
def ipv6Side? (text : List Char) : Option (List Nat) :=
  if text.isEmpty then some [] else ipv6Numbers? (splitAt ':' text)

/-- The eight numbers of an IPv6 address. Two colons in a row stand for at least
one zero. -/
def ipv6? (text : List Char) : Option (List Nat) :=
  match splitGap text with
  | none => (ipv6Side? text).filter fun numbers => numbers.length == 8
  | some (before, after) =>
      if before.contains '.' then none
      else
        match ipv6Side? before, ipv6Side? after with
        | some leading, some trailing =>
            let present := leading.length + trailing.length
            if 7 < present then none
            else
              some (leading ++ List.replicate (8 - present) 0 ++ trailing)
        | _, _ => none

def parseBracketed (text : List Char) : Except Fault Host :=
  if text.getLast? = some ']' ∧ 1 < text.length then
    match ipv6? text.tail.dropLast with
    | some pieces => .ok (.ipv6 pieces)
    | none => .error .invalidIpv6
  else .error .invalidIpv6

/-- The host that a text spells in an address with a special scheme. -/
def parse (text : List Char) : Except Fault Host :=
  if text.head? = some '[' then parseBracketed text
  else
    match Domain.toAscii? (Percent.decode text) with
    | none => .error .invalidDomain
    | some [] => .error .emptyHost
    | some name =>
        if endsInNumber name then
          match ipv4? name with
          | some address => .ok (.ipv4 address)
          | none => .error .invalidIpv4
        else .ok (.domain name)

/-- The characters that a host may not have where schemes do not say what hosts
mean. -/
def isRefused (char : Char) : Bool :=
  ['\x00', '\t', '\n', '\r', ' ', '#', '/', ':', '<', '>', '?', '@', '[',
    '\\', ']', '^', '|'].contains char

/-- The host that a text spells in an address with any other scheme. -/
def parseOther (text : List Char) : Except Fault Host :=
  if text.head? = some '[' then parseBracketed text
  else if text.any isRefused then .error .invalidCharacter
  else .ok (.domain (Percent.encode Percent.isControl text))

/-- The start and the length of the longest run of zeros, the first of several;
runs of one number do not count. `index` is the place of the next number and
`run` the length of the run before it. -/
def longestZeros (index run : Nat) (best : Nat × Nat) : List Nat → Nat × Nat
  | [] => best
  | number :: rest =>
      if number = 0 then
        let longer :=
          if max best.2 1 < run + 1 then (index - run, run + 1) else best
        longestZeros (index + 1) (run + 1) longer rest
      else longestZeros (index + 1) 0 best rest

def writePieces (pieces : List Nat) : List Char :=
  (pieces.map (Nat.toDigits 16)).intersperse [':'] |>.flatten

/-- The text of an IPv6 address, where two colons stand for the longest run of
zeros. -/
def writeIpv6 (pieces : List Nat) : List Char :=
  let (start, length) := longestZeros 0 0 (0, 0) pieces
  if length < 2 then writePieces pieces
  else
    writePieces (pieces.take start) ++ [':', ':'] ++
      writePieces (pieces.drop (start + length))

def writeIpv4 (address : Nat) : List Char :=
  [address / 0x1000000 % 256, address / 0x10000 % 256,
      address / 0x100 % 256, address % 256].map (Nat.toDigits 10)
    |>.intersperse ['.'] |>.flatten

def write : Host → List Char
  | .domain name => name
  | .ipv4 address => writeIpv4 address
  | .ipv6 pieces => '[' :: (writeIpv6 pieces ++ [']'])

end Host

end Parley.Url
