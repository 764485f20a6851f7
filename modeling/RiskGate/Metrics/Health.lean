import RiskGate.Config.Settings
import RiskGate.Decimal.Text
import RiskGate.Metrics.Snapshot

/-!
# Health

A health report compares a snapshot with the configured thresholds.  A rate is
checked only where it has samples: the latency needs a successful request, the
success and error rates a request, the hit rate a lookup.
-/

namespace RiskGate.Metrics

open Decimal (fixed)

/-- The violated thresholds, each in words. -/
structure HealthReport where
  violations : List String
deriving DecidableEq, Repr

def HealthReport.healthy (report : HealthReport) : Bool := report.violations.isEmpty

/-- The text, if the condition holds. -/
def violation (condition : Bool) (text : String) : List String :=
  if condition then [text] else []

/-- Check a snapshot against thresholds. -/
def checkThresholds (snapshot : Snapshot) (thresholds : Config.Thresholds) : HealthReport where
  violations :=
    violation
        (0 < snapshot.successfulRequests &&
          Span.wordFloat thresholds.maxAvgLatencyMs < snapshot.avgDurationMs)
        ("average latency " ++ fixed 1 snapshot.avgDurationMs ++ "ms exceeds " ++
          toString thresholds.maxAvgLatencyMs ++ "ms") ++
      violation
        (0 < snapshot.totalRequests && snapshot.successRate < thresholds.minSuccessRate)
        ("success rate " ++ fixed 3 snapshot.successRate ++ " below " ++
          fixed 3 thresholds.minSuccessRate) ++
      violation
        (0 < snapshot.totalRequests && thresholds.maxErrorRate < snapshot.errorRate)
        ("error rate " ++ fixed 3 snapshot.errorRate ++ " exceeds " ++
          fixed 3 thresholds.maxErrorRate) ++
      violation
        (0 < snapshot.cacheHits + snapshot.cacheMisses &&
          snapshot.cacheHitRate < thresholds.minCacheHitRate)
        ("cache hit rate " ++ fixed 3 snapshot.cacheHitRate ++ " below " ++
          fixed 3 thresholds.minCacheHitRate) ++
      violation
        (snapshot.throughputRps < thresholds.minThroughputRps)
        ("throughput " ++ fixed 2 snapshot.throughputRps ++ " rps below " ++
          fixed 2 thresholds.minThroughputRps ++ " rps")

end RiskGate.Metrics
