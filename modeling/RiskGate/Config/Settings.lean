import RiskGate.Span

/-!
# Settings

The settings of an engine, in five sections, with their defaults, and the spans
that follow from them.  Nothing here is validated.
-/

namespace RiskGate.Config

/-- Worker pool, timeouts and the model to ask. -/
structure Execution where
  /-- Number of workers, and the limit on the size of a batch. -/
  maxConcurrentRequests : Nat := 100
  queueCapacity : Nat := 200
  requestTimeoutMs : Nat := 500
  /-- A batch may take this many times the request timeout. -/
  batchTimeoutMultiplier : Nat := 2
  /-- How long an item of a batch may wait for room in the queue. -/
  submitTimeoutMs : Nat := 100
  modelSelector : String := "auto"
deriving DecidableEq, Repr, Inhabited

/-- The result cache. -/
structure Caching where
  enabled : Bool := true
  ttlSecs : Nat := 300
  maxSize : Nat := 10000
  cleanupIntervalSecs : Nat := 60
deriving DecidableEq, Repr, Inhabited

/-- The circuit breaker. -/
structure Breaking where
  failureThreshold : Nat := 5
  recoveryTimeoutSecs : Nat := 30
  halfOpenMaxCalls : Nat := 3
deriving DecidableEq, Repr, Inhabited

/-- How log lines are written. -/
inductive LogFormat where
  | pretty
  | json
deriving DecidableEq, Repr, Inhabited

def LogFormat.name : LogFormat → String
  | pretty => "pretty"
  | json => "json"

/-- Logging and metrics. -/
structure Observability where
  logLevel : String := "info"
  logFormat : LogFormat := .pretty
  metricsEnabled : Bool := true
  /-- Where metrics are served; empty for nowhere. -/
  metricsAddress : String := ""
deriving DecidableEq, Repr, Inhabited

/-- Bounds that the health report checks. -/
structure Thresholds where
  maxAvgLatencyMs : Nat := 500
  minSuccessRate : Float := 0.95
  minCacheHitRate : Float := 0.0
  maxErrorRate : Float := 0.05
  minThroughputRps : Float := 0.0
deriving Inhabited

/-- All settings of an engine. -/
structure Settings where
  execution : Execution := {}
  cache : Caching := {}
  circuitBreaker : Breaking := {}
  observability : Observability := {}
  thresholds : Thresholds := {}
deriving Inhabited

namespace Settings

/-- How long one call of the scoring service may take. -/
def requestTimeout (settings : Settings) : Span :=
  Span.ofMillis settings.execution.requestTimeoutMs

/-- How long a batch may take, at most the longest span. -/
def batchTimeout (settings : Settings) : Span :=
  settings.requestTimeout.times settings.execution.batchTimeoutMultiplier

/-- How long an item of a batch may wait for room in the queue. -/
def submitTimeout (settings : Settings) : Span :=
  Span.ofMillis settings.execution.submitTimeoutMs

def cacheTtl (settings : Settings) : Span :=
  Span.ofSecs settings.cache.ttlSecs

def cleanupInterval (settings : Settings) : Span :=
  Span.ofSecs settings.cache.cleanupIntervalSecs

def recoveryTimeout (settings : Settings) : Span :=
  Span.ofSecs settings.circuitBreaker.recoveryTimeoutSecs

end Settings

end RiskGate.Config
