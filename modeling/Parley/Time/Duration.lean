/-!
Contract: spans of time.

A span is a count of nanoseconds. Only spans of less than `2 ^ 64` seconds can be
represented, so a sum of spans may not exist.

Owns: `Duration`, its sum and its text.
-/

namespace Parley.Time

/-- A span of time. -/
structure Duration where
  nanoseconds : Nat
deriving DecidableEq, Repr

namespace Duration

def zero : Duration := ⟨0⟩

def perMilli : Nat := 1000000

def perSecond : Nat := 1000000000

def ofMillis (count : Nat) : Duration := ⟨count * perMilli⟩

def toMillis (span : Duration) : Nat := span.nanoseconds / perMilli

/-- The least count of nanoseconds that is not represented. -/
def limit : Nat := UInt64.size * perSecond

def add? (first second : Duration) : Option Duration :=
  let sum := first.nanoseconds + second.nanoseconds
  if sum < limit then some ⟨sum⟩ else none

/-- The places of a fraction of `10 ^ width`, without zeros at its end, behind a
point; nothing if no place is left. -/
def fractionText (width fraction : Nat) : String :=
  let digits := Nat.toDigits 10 fraction
  let places := List.replicate (width - digits.length) '0' ++ digits
  let kept := (places.reverse.dropWhile (· == '0')).reverse
  if kept.isEmpty then "" else String.ofList ('.' :: kept)

/-- The count of units of `10 ^ width` nanoseconds, with its fraction. -/
def textIn (width : Nat) (unit : String) (span : Duration) : String :=
  toString (span.nanoseconds / Nat.pow 10 width) ++
    (if width = 0 then ""
      else fractionText width (span.nanoseconds % Nat.pow 10 width)) ++ unit

/-- The text of a span, in the largest unit of which it holds at least one. -/
def toText (span : Duration) : String :=
  if perSecond ≤ span.nanoseconds then span.textIn 9 "s"
  else if perMilli ≤ span.nanoseconds then span.textIn 6 "ms"
  else if 1000 ≤ span.nanoseconds then span.textIn 3 "µs"
  else span.textIn 0 "ns"

end Duration

end Parley.Time
