/-!
# Sets of code points as ranges

A set of code points is given by the increasing list of its boundaries: the
first boundary opens a range, the second closes it, and so on.  A code point is
in the set when an odd number of boundaries lies at or below it.
-/

namespace RiskGate.Text

/-- A set of code points, as the increasing boundaries of its ranges. -/
structure CodeRanges where
  bounds : Array Nat

namespace CodeRanges

/-- Number of boundaries at or below `code` between the positions `low` and
`high`, counted from the start; the first argument bounds the bisections. -/
def bisect (bounds : Array Nat) (code : Nat) : Nat → Nat → Nat → Nat
  | 0, low, _ => low
  | steps + 1, low, high =>
      if low < high then
        let middle := (low + high) / 2
        if bounds.getD middle 0 ≤ code then
          bisect bounds code steps (middle + 1) high
        else
          bisect bounds code steps low middle
      else
        low

/-- Number of boundaries at or below `code`. -/
def rank (ranges : CodeRanges) (code : Nat) : Nat :=
  bisect ranges.bounds code ranges.bounds.size 0 ranges.bounds.size

/-- The character is in the set. -/
def contains (ranges : CodeRanges) (c : Char) : Bool :=
  ranges.rank c.toNat % 2 == 1

end CodeRanges

end RiskGate.Text
