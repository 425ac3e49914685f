/-!
Contract: labels with characters beyond ASCII in ASCII form.

The ASCII characters of a label come first, then a hyphen if there are any, and
then numbers that tell where the other characters are inserted, in the order of
their code points. A number is written in base 36 with its least digit first; a
digit below a threshold ends it. The thresholds adapt to the numbers so far.

Owns: `Punycode.decode?` and `Punycode.encode`.
-/

namespace Parley.Url.Domain.Punycode

/-- The least threshold, the largest one, and the base of the digits. -/
def least : Nat := 1
def most : Nat := 26
def base : Nat := 36

def firstBias : Nat := 72

def firstCode : Nat := 0x80

/-- The threshold of a digit; `place` is the base times the number of the digit,
counted from one. -/
def threshold (bias place : Nat) : Nat :=
  max least (min most (place - bias))

theorem threshold_pos (bias place : Nat) : 0 < threshold bias place := by
  unfold threshold least
  omega

/-- Divides a number until it is small, and counts the divisions in multiples of
the base. -/
def reduce (value count : Nat) : Nat × Nat :=
  if (base - least) * most / 2 < value then
    reduce (value / (base - least)) (count + base)
  else (value, count)
termination_by value
decreasing_by
  rename_i large
  simp only [base, least, most] at large ⊢
  omega

def adapt (number length : Nat) (first : Bool) : Nat :=
  let damped := if first then number / 700 else number / 2
  let (value, count) := reduce (damped + damped / length) 0
  count + base * value / (value + 38)

def digitValue? (char : Char) : Option Nat :=
  if 'a' ≤ char ∧ char ≤ 'z' then some (char.toNat - 'a'.toNat)
  else if 'A' ≤ char ∧ char ≤ 'Z' then some (char.toNat - 'A'.toNat)
  else if '0' ≤ char ∧ char ≤ '9' then some (char.toNat - '0'.toNat + 26)
  else none

def digit (value : Nat) : Char :=
  if value < 26 then Char.ofNat ('a'.toNat + value)
  else Char.ofNat ('0'.toNat + (value - 26))

/-- How far a label was decoded: its characters, the code point and the place of
the next one, the bias, whether no number was read, and of the number under way
its value, the place of its next digit and the weight of that. -/
structure Decoding where
  chars : List Char
  code : Nat
  index : Nat
  bias : Nat
  fresh : Bool
  number : Nat
  place : Nat
  weight : Nat

namespace Decoding

/-- The characters that stand for themselves were read. -/
def start (chars : List Char) : Decoding :=
  ⟨chars, firstCode, 0, firstBias, true, 0, base, 1⟩

/-- Inserts the character that a number makes, if it makes one. -/
def insert? (decoding : Decoding) (number : Nat) : Option Decoding :=
  let length := decoding.chars.length + 1
  let total := decoding.index + number
  let code := decoding.code + total / length
  let index := total % length
  if h : code.isValidChar then
    some
      { chars := decoding.chars.take index ++
          Char.ofNatAux code h :: decoding.chars.drop index
        code := code
        index := index + 1
        bias := adapt number length decoding.fresh
        fresh := false
        number := 0
        place := base
        weight := 1 }
  else none

def step? (decoding : Decoding) (char : Char) : Option Decoding :=
  match digitValue? char with
  | none => none
  | some value =>
      let number := decoding.number + value * decoding.weight
      let bound := threshold decoding.bias decoding.place
      if value < bound then decoding.insert? number
      else
        some
          { decoding with
            number := number
            place := decoding.place + base
            weight := decoding.weight * (base - bound) }

end Decoding

/-- The characters before the last hyphen, which stand for themselves, and the
digits after it. Without a hyphen, or with one at the very start, all characters
are digits. -/
def splitBasic (text : List Char) : List Char × List Char :=
  let digits := (text.reverse.takeWhile (· ≠ '-')).reverse
  let before := text.take (text.length - digits.length - 1)
  if before.isEmpty then ([], text) else (before, digits)

def decode? (text : List Char) : Option (List Char) :=
  let (basic, digits) := splitBasic text
  match digits.foldlM Decoding.step? (.start basic) with
  | some decoding =>
      if decoding.place = base then some decoding.chars else none
  | none => none

def writeNumber (bias place number : Nat) : List Char :=
  let bound := threshold bias place
  if number < bound then [digit number]
  else
    digit (bound + (number - bound) % (base - bound)) ::
      writeNumber bias (place + base) ((number - bound) / (base - bound))
termination_by number
decreasing_by
  rename_i large
  have positive := threshold_pos bias place
  have : (number - bound) / (base - bound) ≤ number - bound :=
    Nat.div_le_self _ _
  show (number - bound) / (base - bound) < number
  have : 0 < bound := positive
  omega

/-- How far a label was encoded: the digits, last first, the number of the next
insertion, the bias, and how many characters were written. -/
structure Encoding where
  digits : List Char
  number : Nat
  bias : Nat
  written : Nat

/-- Passes a character of the label while the characters of a code point are
written; `basic` is the number of characters that stand for themselves. -/
def Encoding.pass (basic code : Nat) (encoding : Encoding) (char : Char) :
    Encoding :=
  if char.toNat < code then { encoding with number := encoding.number + 1 }
  else if char.toNat = code then
    { digits :=
        (writeNumber encoding.bias base encoding.number).reverse ++
          encoding.digits
      number := 0
      bias := adapt encoding.number (encoding.written + 1)
        (encoding.written == basic)
      written := encoding.written + 1 }
  else encoding

/-- Writes the characters of each code point; `code` is the first code point
that was not written yet. -/
def encodeCodes (basic : Nat) (label : List Char) :
    List Nat → Nat → Encoding → Encoding
  | [], _, encoding => encoding
  | next :: rest, code, encoding =>
      let skipped :=
        { encoding with
          number := encoding.number +
            (next - code) * (encoding.written + 1) }
      let passed := label.foldl (Encoding.pass basic next) skipped
      encodeCodes basic label rest (next + 1)
        { passed with number := passed.number + 1 }

def encode (label : List Char) : List Char :=
  let basic := label.filter fun char => char.toNat < firstCode
  let codes :=
    ((label.map Char.toNat).filter (firstCode ≤ ·)).mergeSort.eraseDups
  let encoding :=
    encodeCodes basic.length label codes firstCode
      ⟨[], 0, firstBias, basic.length⟩
  basic ++ (if basic.isEmpty then [] else ['-']) ++ encoding.digits.reverse

end Parley.Url.Domain.Punycode
