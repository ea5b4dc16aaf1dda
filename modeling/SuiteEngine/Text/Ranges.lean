/-!
# Sets of characters as range tables

A character class of a standard is a table of closed ranges of code points in increasing order.
`member` looks a character up by halving the table; thirty-two halvings reach every entry of a
table that fits into memory.
-/

namespace SuiteEngine.Text

/-- Closed ranges of code points, in increasing order and without overlap. -/
abbrev Ranges := Array (Nat × Nat)

namespace Ranges

/-- Looks for the range around `n` among the entries from `lo` up to, but without, `hi`. -/
def search (table : Ranges) (n : Nat) : (fuel lo hi : Nat) → Bool
  | 0, _, _ => false
  | fuel + 1, lo, hi =>
    if lo < hi then
      let mid := (lo + hi) / 2
      match table[mid]? with
      | none => false
      | some (a, b) =>
        if n < a then search table n fuel lo mid
        else if b < n then search table n fuel (mid + 1) hi
        else true
    else false

/-- Whether the code point of `c` lies in one of the ranges. -/
def member (table : Ranges) (c : Char) : Bool :=
  search table c.toNat 32 0 table.size

end Ranges

end SuiteEngine.Text
