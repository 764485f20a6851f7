/-!
# Tallies

A tally counts occurrences of labels.  It is kept in the order of its labels,
so two tallies of the same occurrences are equal whatever the order in which
the occurrences came.
-/

namespace RiskGate

/-- Counts by label, in increasing order of the labels. -/
abbrev Tally := List (String × Nat)

namespace Tally

/-- Count one more occurrence of a label. -/
def bump (label : String) : Tally → Tally
  | [] => [(label, 1)]
  | (other, count) :: rest =>
      if label = other then (other, count + 1) :: rest
      else if label < other then (label, 1) :: (other, count) :: rest
      else (other, count) :: bump label rest

/-- The number of occurrences of a label. -/
def count (label : String) : Tally → Nat
  | [] => 0
  | (other, n) :: rest => if label = other then n else count label rest

/-- The number of all occurrences. -/
def total : Tally → Nat
  | [] => 0
  | (_, n) :: rest => n + total rest

end Tally

end RiskGate
