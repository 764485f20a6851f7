import RiskGate.Span
import RiskGate.Tally

/-!
# The ledger of exported metrics

What the collector has exported since it was made.  Unlike the collector's own
counters the ledger is never reset, and it keeps every duration, because an
exported histogram is fed one sample at a time.
-/

namespace RiskGate.Metrics

/-- Everything exported so far; durations stand latest first. -/
structure Ledger where
  requestDurations : List Span := []
  errors : Tally := []
  hits : Nat := 0
  misses : Nat := 0
  batchDurations : List Span := []
  batchItems : Nat := 0
deriving Repr, Inhabited

end RiskGate.Metrics
