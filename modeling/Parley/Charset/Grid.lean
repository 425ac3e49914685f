/-!
Contract: the tables of character sets.

A grid holds characters in rows. A place that holds none is written as U+FFFD,
and a row may end before its last places.

Owns: `Grid`.
-/

namespace Parley.Charset

structure Grid where
  rows : Array (Array Char)

namespace Grid

def ofRows (rows : List String) : Grid :=
  ⟨(rows.map fun row => row.toList.toArray).toArray⟩

/-- The character at a place of a row, both counted from zero. -/
def char? (grid : Grid) (row place : Nat) : Option Char :=
  ((grid.rows[row]?).bind (·[place]?)).filter (· ≠ '\uFFFD')

end Grid

end Parley.Charset
