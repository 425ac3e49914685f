import Parley.Text.Numeral
import Parley.Text.Parts

/-!
Contract: sets of characters given by ranges of code points.

Owns: `CodePoints`, its reader and `contains`.
-/

namespace Parley.Text

/-- The first and the last code points of ranges. -/
structure CodePoints where
  ranges : List (Nat × Nat)
deriving DecidableEq, Repr

namespace CodePoints

/-- The range that a hexadecimal number spells, or two of them with a hyphen
between them. -/
def range? (text : List Char) : Option (Nat × Nat) :=
  match (splitAt '-' text).mapM (numberIn? 16) with
  | some [code] => some (code, code)
  | some [first, last] => some (first, last)
  | _ => none

/-- The set that lines of ranges between spaces describe. -/
def ofText (lines : List String) : CodePoints :=
  ⟨lines.flatMap fun line => (splitAt ' ' line.toList).filterMap range?⟩

def contains (set : CodePoints) (char : Char) : Bool :=
  set.ranges.any fun range => range.1 ≤ char.toNat && char.toNat ≤ range.2

end CodePoints

end Parley.Text
