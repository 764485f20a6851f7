import RiskGate.Span

/-!
# Aggregated durations

Count, exact sum, least and greatest of a collection of spans.  The average is
formed only when it is asked for.
-/

namespace RiskGate.Metrics

/-- An aggregate of spans. -/
structure Durations where
  count : Nat := 0
  sum : Nat := 0
  least : Option Nat := none
  greatest : Nat := 0
deriving DecidableEq, Repr, Inhabited

namespace Durations

/-- Take one more span in. -/
def record (span : Span) (durations : Durations) : Durations where
  count := durations.count + 1
  sum := durations.sum + span.nanos
  least := some (match durations.least with
    | none => span.nanos
    | some least => min least span.nanos)
  greatest := max durations.greatest span.nanos

/-- The average in milliseconds, zero before the first span. -/
def average (durations : Durations) : Float :=
  if durations.count = 0 then 0.0
  else (Span.mk durations.sum).seconds * 1000.0 / Span.wordFloat durations.count

/-- The least span in milliseconds, zero before the first span. -/
def leastMillis (durations : Durations) : Float :=
  (Span.mk (durations.least.getD 0)).floatMillis

/-- The greatest span in milliseconds, zero before the first span. -/
def greatestMillis (durations : Durations) : Float :=
  (Span.mk durations.greatest).floatMillis

end Durations

end RiskGate.Metrics
