/-!
Contract: the digits of numerals in a base of up to 36.

Owns: `digitIn?` and `numberIn?`.
-/

namespace Parley.Text

/-- The value of a digit in a base. Letters of either case stand for the values
from ten on. -/
def digitIn? (base : Nat) (char : Char) : Option Nat :=
  let value : Option Nat :=
    if '0' ≤ char ∧ char ≤ '9' then some (char.toNat - '0'.toNat)
    else if 'a' ≤ char ∧ char ≤ 'z' then some (char.toNat - 'a'.toNat + 10)
    else if 'A' ≤ char ∧ char ≤ 'Z' then some (char.toNat - 'A'.toNat + 10)
    else none
  value.filter (· < base)

/-- The number that the digits of a base spell; no digits spell zero. -/
def numberIn? (base : Nat) (digits : List Char) : Option Nat :=
  digits.foldlM
    (fun total char => (digitIn? base char).map (total * base + ·)) 0

end Parley.Text
