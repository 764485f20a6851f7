import RiskGate.Breaker
import RiskGate.Cache.Store
import RiskGate.Metrics.Collector

/-!
# Exported series

The names under which counters, gauges and histograms are exported.  A series
exists from its first recording on, so a counter that was never touched is
absent rather than zero.
-/

namespace RiskGate.Metrics

/-- All series, by name. -/
structure Exposition where
  counters : List (String × Nat) := []
  gauges : List (String × Float) := []
  histograms : List (String × List Float) := []

namespace Exposition

/-- The series of two sources together. -/
def append (a b : Exposition) : Exposition :=
  ⟨a.counters ++ b.counters, a.gauges ++ b.gauges, a.histograms ++ b.histograms⟩

instance : Append Exposition := ⟨append⟩

/-- The name of a series with one label. -/
def labelled (name label value : String) : String :=
  name ++ "\x7b" ++ label ++ "=" ++ value ++ "\x7d"

/-- A counter that exists once it was touched. -/
def counter (touched : Bool) (name : String) (value : Nat) : List (String × Nat) :=
  if touched then [(name, value)] else []

/-- A histogram that exists once it has a sample, in the order of recording. -/
def histogram (name : String) (latestFirst : List Span) : List (String × List Float) :=
  if latestFirst.isEmpty then [] else [(name, latestFirst.reverse.map Span.seconds)]

/-- The value of the circuit gauge. -/
def circuitValue : Circuit → Float
  | .closed => 0.0
  | .halfOpen => 1.0
  | .opened => 2.0

/-- The series of a collector. -/
def ofLedger (ledger : Ledger) : Exposition where
  counters :=
    counter (!ledger.requestDurations.isEmpty)
        (labelled "risk_engine_requests_total" "outcome" "success")
        ledger.requestDurations.length ++
      counter (!ledger.errors.isEmpty)
        (labelled "risk_engine_requests_total" "outcome" "error") ledger.errors.total ++
      ledger.errors.map (fun (kind, count) =>
        (labelled "risk_engine_errors_total" "kind" kind, count)) ++
      counter (0 < ledger.hits)
        (labelled "risk_engine_cache_lookups_total" "result" "hit") ledger.hits ++
      counter (0 < ledger.misses)
        (labelled "risk_engine_cache_lookups_total" "result" "miss") ledger.misses ++
      counter (!ledger.batchDurations.isEmpty) "risk_engine_batch_items_total" ledger.batchItems
  histograms :=
    histogram "risk_engine_request_duration_seconds" ledger.requestDurations ++
      histogram "risk_engine_batch_duration_seconds" ledger.batchDurations

/-- The gauge of a breaker. -/
def ofBreaker (breaker : Breaker) : Exposition where
  gauges :=
    match breaker.announced with
    | none => []
    | some circuit => [("risk_engine_circuit_state", circuitValue circuit)]

/-- The gauge of a cache, from the number of entries it announced last. -/
def ofCacheSize (announced : Option Nat) : Exposition where
  gauges :=
    match announced with
    | none => []
    | some size => [("risk_engine_cache_entries", Span.wordFloat size)]

/-- The counters of a pool, from its rejections by reason. -/
def ofRejections (rejections : Tally) : Exposition where
  counters := rejections.map fun (reason, count) =>
    (labelled "risk_engine_pool_rejections_total" "reason" reason, count)

end Exposition

end RiskGate.Metrics
