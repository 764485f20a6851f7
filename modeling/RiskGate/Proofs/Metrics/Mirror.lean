import RiskGate.Metrics.Snapshot
import RiskGate.Proofs.Metrics.Series
import Mathlib.Algebra.BigOperators.Group.List.Basic

/-!
# Two accounts of one collector

A collector keeps two accounts of what it records: its counters, which a reset sets to zero,
and the ledger of its exports, which a reset leaves alone.  Every recording enters both.

So the ledger is the sum of the counters over all periods between resets, the present one
included, and the exported series can be read off the snapshots at the ends of the periods.
-/

namespace RiskGate.Metrics

/-- Something that a collector records. -/
inductive Recording where
  | request (duration : Span)
  | error (kind : String)
  | hit
  | miss
  | batch (duration : Span) (items : Nat)

/-- Record it. -/
def Recording.enter : Recording → Collector → Collector
  | request duration => (·.recordRequest duration)
  | error kind => (·.recordError kind)
  | hit => (·.recordHit)
  | miss => (·.recordMiss)
  | batch duration items => (·.recordBatch duration items)

/-- A figure of snapshots, summed over periods. -/
def overall (figure : Snapshot → Nat) (periods : List Snapshot) : Nat :=
  (periods.map figure).sum

theorem overall_concat (figure : Snapshot → Nat) (periods : List Snapshot) (last : Snapshot) :
    overall figure periods + figure last = overall figure (periods ++ [last]) := by
  simp [overall]

/-- The ledger is the sum of the counters over the past periods and the present one. -/
structure Mirrors (past : List Snapshot) (collector : Collector) : Prop where
  succeeded : collector.ledger.requestDurations.length =
    overall (·.successfulRequests) past + collector.successful
  failed : collector.ledger.errors.total = overall (·.failedRequests) past + collector.failed
  kinds : ∀ kind, collector.ledger.errors.count kind =
    overall (·.errorsByType.count kind) past + collector.errors.count kind
  hits : collector.ledger.hits = overall (·.cacheHits) past + collector.hits
  misses : collector.ledger.misses = overall (·.cacheMisses) past + collector.misses
  batches : collector.ledger.batchDurations.length =
    overall (·.batchRequests) past + collector.batches
  items : collector.ledger.batchItems = overall (·.batchItems) past + collector.batchItems
  /-- There are no items without a batch. -/
  itemless : collector.ledger.batchDurations = [] → collector.ledger.batchItems = 0
  ordered : collector.errors.Ordered
  orderedLedger : collector.ledger.errors.Ordered

namespace Mirrors

variable {past : List Snapshot} {collector : Collector}

theorem make : Mirrors [] {} where
  succeeded := rfl
  failed := rfl
  kinds := fun _ => rfl
  hits := rfl
  misses := rfl
  batches := rfl
  items := rfl
  itemless := fun _ => rfl
  ordered := List.Pairwise.nil
  orderedLedger := List.Pairwise.nil

/-- A recording enters both accounts. -/
theorem enter (mirrors : Mirrors past collector) (recording : Recording) :
    Mirrors past (recording.enter collector) := by
  cases recording with
  | request duration =>
      exact { mirrors with succeeded := congrArg (· + 1) mirrors.succeeded }
  | error kind =>
      refine { mirrors with
        failed := ?_
        kinds := fun other => ?_
        ordered := Tally.ordered_bump mirrors.ordered kind
        orderedLedger := Tally.ordered_bump mirrors.orderedLedger kind }
      · exact (Tally.total_bump kind _).trans (congrArg (· + 1) mirrors.failed)
      · change (Tally.bump kind collector.ledger.errors).count other =
          _ + (Tally.bump kind collector.errors).count other
        rw [Tally.count_bump mirrors.orderedLedger, Tally.count_bump mirrors.ordered,
          mirrors.kinds, Nat.add_assoc]
  | hit => exact { mirrors with hits := congrArg (· + 1) mirrors.hits }
  | miss => exact { mirrors with misses := congrArg (· + 1) mirrors.misses }
  | batch duration items =>
      refine { mirrors with
        batches := congrArg (· + 1) mirrors.batches
        items := ?_
        itemless := nofun }
      exact (congrArg (· + items) mirrors.items).trans (Nat.add_assoc _ _ _)

/-- A reset ends a period. -/
theorem reset (mirrors : Mirrors past collector) (now : Nat) :
    Mirrors (past ++ [collector.snapshot now]) (collector.reset now) := by
  have ended (figure : Snapshot → Nat) := overall_concat figure past (collector.snapshot now)
  exact {
    succeeded := mirrors.succeeded.trans (ended (·.successfulRequests))
    failed := mirrors.failed.trans (ended (·.failedRequests))
    kinds := fun kind => (mirrors.kinds kind).trans (ended (·.errorsByType.count kind))
    hits := mirrors.hits.trans (ended (·.cacheHits))
    misses := mirrors.misses.trans (ended (·.cacheMisses))
    batches := mirrors.batches.trans (ended (·.batchRequests))
    items := mirrors.items.trans (ended (·.batchItems))
    itemless := mirrors.itemless
    ordered := List.Pairwise.nil
    orderedLedger := mirrors.orderedLedger }

end Mirrors

/-- The exported series are the sums of the snapshots at the ends of all periods, the present
one included. -/
structure MirrorLaw (periods : List Snapshot) (exposition : Exposition) : Prop where
  succeeded : exposition.counted
    (Exposition.labelled "risk_engine_requests_total" "outcome" "success") =
      overall (·.successfulRequests) periods
  failed : exposition.counted
    (Exposition.labelled "risk_engine_requests_total" "outcome" "error") =
      overall (·.failedRequests) periods
  kinds : ∀ kind, exposition.counted
    (Exposition.labelled "risk_engine_errors_total" "kind" kind) =
      overall (·.errorsByType.count kind) periods
  hits : exposition.counted
    (Exposition.labelled "risk_engine_cache_lookups_total" "result" "hit") =
      overall (·.cacheHits) periods
  misses : exposition.counted
    (Exposition.labelled "risk_engine_cache_lookups_total" "result" "miss") =
      overall (·.cacheMisses) periods
  items : exposition.counted "risk_engine_batch_items_total" = overall (·.batchItems) periods
  /-- There is one sample for every successful request. -/
  requestSamples : (exposition.sampled "risk_engine_request_duration_seconds").length =
    overall (·.successfulRequests) periods
  /-- There is one sample for every batch. -/
  batchSamples : (exposition.sampled "risk_engine_batch_duration_seconds").length =
    overall (·.batchRequests) periods

/-- A snapshot now ends the present period. -/
theorem Mirrors.law {past : List Snapshot} {collector : Collector}
    (mirrors : Mirrors past collector) (now : Nat) {exposition : Exposition}
    (exports : Exposition.Exports collector.ledger exposition) :
    MirrorLaw (past ++ [collector.snapshot now]) exposition := by
  -- The counters of the ledger stay as they are when the period ends.
  have ended := mirrors.reset now
  constructor
  · exact exports.succeeded.trans ended.succeeded
  · exact exports.failed.trans ended.failed
  · exact fun kind => (exports.kinds kind).trans (ended.kinds kind)
  · exact exports.hits.trans ended.hits
  · exact exports.misses.trans ended.misses
  · rw [exports.items]
    split
    next none =>
      rw [← mirrors.itemless none]
      exact ended.items
    · exact ended.items
  · rw [exports.requestSamples, List.length_map, List.length_reverse]
    exact ended.succeeded
  · rw [exports.batchSamples, List.length_map, List.length_reverse]
    exact ended.batches

end RiskGate.Metrics
