import RiskGate.Metrics.Collector

/-!
# Snapshots

A snapshot copies the collector's counters and derives its rates.  A rate over
nothing is zero.
-/

namespace RiskGate.Metrics

/-- The collector's counters at one instant, with derived rates. -/
structure Snapshot where
  totalRequests : Nat := 0
  successfulRequests : Nat := 0
  failedRequests : Nat := 0
  successRate : Float := 0.0
  errorRate : Float := 0.0
  avgDurationMs : Float := 0.0
  minDurationMs : Float := 0.0
  maxDurationMs : Float := 0.0
  cacheHits : Nat := 0
  cacheMisses : Nat := 0
  cacheHitRate : Float := 0.0
  batchRequests : Nat := 0
  batchItems : Nat := 0
  avgBatchSize : Float := 0.0
  avgBatchDurationMs : Float := 0.0
  throughputRps : Float := 0.0
  uptimeSecs : Float := 0.0
  errorsByType : Tally := []

/-- `part / whole`, zero when the whole is zero. -/
def share (part whole : Nat) : Float :=
  if whole = 0 then 0.0 else Span.wordFloat part / Span.wordFloat whole

/-- The snapshot of a collector at an instant. -/
def Collector.snapshot (now : Nat) (collector : Collector) : Snapshot :=
  let uptime : Span := ⟨now - collector.startedAt⟩
  { totalRequests := collector.total
    successfulRequests := collector.successful
    failedRequests := collector.failed
    successRate := share collector.successful collector.total
    errorRate := share collector.failed collector.total
    avgDurationMs := collector.durations.average
    minDurationMs := collector.durations.leastMillis
    maxDurationMs := collector.durations.greatestMillis
    cacheHits := collector.hits
    cacheMisses := collector.misses
    cacheHitRate := share collector.hits (collector.hits + collector.misses)
    batchRequests := collector.batches
    batchItems := collector.batchItems
    avgBatchSize := share collector.batchItems collector.batches
    avgBatchDurationMs := collector.batchDurations.average
    throughputRps :=
      if uptime.nanos = 0 then 0.0 else Span.wordFloat collector.total / uptime.seconds
    uptimeSecs := uptime.seconds
    errorsByType := collector.errors }

end RiskGate.Metrics
