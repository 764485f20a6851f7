import RiskGate.Metrics.Durations
import RiskGate.Metrics.Ledger

/-!
# The collector

The collector counts requests by outcome, failures by kind, cache lookups and
batches, and aggregates the durations of successful requests and of batches.
It can be reset; what it has exported stays in its ledger.  Times are instants
in nanoseconds.
-/

namespace RiskGate.Metrics

/-- Counters since the last reset, and the ledger of all exports. -/
structure Collector where
  startedAt : Nat := 0
  total : Nat := 0
  successful : Nat := 0
  failed : Nat := 0
  durations : Durations := {}
  hits : Nat := 0
  misses : Nat := 0
  batches : Nat := 0
  batchItems : Nat := 0
  batchDurations : Durations := {}
  errors : Tally := []
  ledger : Ledger := {}
deriving Repr, Inhabited

namespace Collector

/-- Record a successful request. -/
def recordRequest (duration : Span) (collector : Collector) : Collector :=
  { collector with
    total := collector.total + 1
    successful := collector.successful + 1
    durations := collector.durations.record duration
    ledger :=
      { collector.ledger with
        requestDurations := duration :: collector.ledger.requestDurations } }

/-- Record a failed request under a kind. -/
def recordError (kind : String) (collector : Collector) : Collector :=
  { collector with
    total := collector.total + 1
    failed := collector.failed + 1
    errors := collector.errors.bump kind
    ledger := { collector.ledger with errors := collector.ledger.errors.bump kind } }

/-- The kind of a failure that names none. -/
def unknownKind : String := "unknown"

/-- Record a cache lookup that hit. -/
def recordHit (collector : Collector) : Collector :=
  { collector with
    hits := collector.hits + 1
    ledger := { collector.ledger with hits := collector.ledger.hits + 1 } }

/-- Record a cache lookup that missed. -/
def recordMiss (collector : Collector) : Collector :=
  { collector with
    misses := collector.misses + 1
    ledger := { collector.ledger with misses := collector.ledger.misses + 1 } }

/-- Record a batch with its number of items. -/
def recordBatch (duration : Span) (items : Nat) (collector : Collector) : Collector :=
  { collector with
    batches := collector.batches + 1
    batchItems := collector.batchItems + items
    batchDurations := collector.batchDurations.record duration
    ledger :=
      { collector.ledger with
        batchDurations := duration :: collector.ledger.batchDurations
        batchItems := collector.ledger.batchItems + items } }

/-- Start over from an instant.  The ledger stays. -/
def reset (now : Nat) (collector : Collector) : Collector :=
  { startedAt := now, ledger := collector.ledger }

end Collector

end RiskGate.Metrics
