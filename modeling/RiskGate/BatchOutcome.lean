import RiskGate.Assessment
import RiskGate.Failure

/-!
# Outcomes of batches

A batch answers each of its items in the position of the request.  Its outcome
splits into the assessments and one failure that names each failed position,
and the two parts together hold everything the outcome did.
-/

namespace RiskGate

/-- The answers of a batch, in the order of its requests. -/
structure BatchOutcome where
  items : List (Outcome Assessment)

namespace BatchOutcome

def size (outcome : BatchOutcome) : Nat := outcome.items.length

def isEmpty (outcome : BatchOutcome) : Bool := outcome.items.isEmpty

/-- The item was answered. -/
def answered (item : Outcome Assessment) : Bool :=
  match item with
  | .ok _ => true
  | .error _ => false

def successCount (outcome : BatchOutcome) : Nat :=
  outcome.items.countP answered

def failureCount (outcome : BatchOutcome) : Nat :=
  outcome.size - outcome.successCount

/-- Failed items with their positions, the first item standing at `start`. -/
def failuresFrom (start : Nat) : List (Outcome Assessment) → List (Nat × Failure)
  | [] => []
  | .ok _ :: rest => failuresFrom (start + 1) rest
  | .error failure :: rest => (start, failure) :: failuresFrom (start + 1) rest

/-- Failed items with their positions. -/
def failures (outcome : BatchOutcome) : List (Nat × Failure) :=
  failuresFrom 0 outcome.items

/-- The assessments, in the order of their requests. -/
def successes (outcome : BatchOutcome) : List Assessment :=
  outcome.items.filterMap Except.toOption

/-- One failure for the whole batch, if any item failed. -/
def failure? (outcome : BatchOutcome) : Option Failure :=
  match outcome.failures with
  | [] => none
  | failures => some (.batch outcome.size failures)

/-- The assessments and the failure of the whole batch. -/
def parts (outcome : BatchOutcome) : List Assessment × Option Failure :=
  (outcome.successes, outcome.failure?)

end BatchOutcome

end RiskGate
