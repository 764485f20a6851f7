import RiskGate.Config.Address
import RiskGate.Config.Settings
import RiskGate.Decimal.Text
import RiskGate.Text.Blank

/-!
# Validation

The constraints that settings must meet before an engine is built from them.
All violations are reported, in the order of the list of constraints: first the
lower bounds section by section, then the address and the rates, then the caps.
-/

namespace RiskGate.Config

/-- A broken constraint: the path of the setting, and what is wrong with it. -/
structure Violation where
  field : String
  problem : String
deriving DecidableEq, Repr

def Violation.message (violation : Violation) : String :=
  violation.field ++ ": " ++ violation.problem

/-- One hour in milliseconds. -/
def maxTimeoutMs : Nat := 60 * 60 * 1000

def maxBatchTimeoutMultiplier : Nat := 100

/-- One year of 365 days in seconds. -/
def maxCacheTtlSecs : Nat := 365 * 24 * 60 * 60

/-- One day in seconds. -/
def maxIntervalSecs : Nat := 24 * 60 * 60

/-- The violation, if the condition holds. -/
def report (broken : Bool) (field problem : String) : List Violation :=
  if broken then [⟨field, problem⟩] else []

/-- A number that must not be zero. -/
def positive (field : String) (value : Nat) : List Violation :=
  report (value == 0) field "must be greater than 0"

/-- A share that must lie between zero and one. -/
def withinUnit (field : String) (value : Float) : List Violation :=
  report (!(0.0 ≤ value && value ≤ 1.0)) field (Decimal.plain value ++ " is outside [0, 1]")

/-- A number that must not exceed a maximum. -/
def atMost (field : String) (value maximum : Nat) : List Violation :=
  report (maximum < value) field
    (toString value ++ " exceeds the maximum of " ++ toString maximum)

/-- Lower bounds on the execution section. -/
def executionViolations (execution : Execution) : List Violation :=
  positive "execution.max_concurrent_requests" execution.maxConcurrentRequests ++
    positive "execution.queue_capacity" execution.queueCapacity ++
    positive "execution.request_timeout_ms" execution.requestTimeoutMs ++
    positive "execution.batch_timeout_multiplier" execution.batchTimeoutMultiplier ++
    report (Text.trim execution.modelSelector.toList).isEmpty
      "execution.model_selector" "must not be empty"

/-- Lower bounds on the cache section, which hold only while caching is on. -/
def cacheViolations (cache : Caching) : List Violation :=
  if cache.enabled then
    positive "cache.ttl_secs" cache.ttlSecs ++
      positive "cache.max_size" cache.maxSize ++
      positive "cache.cleanup_interval_secs" cache.cleanupIntervalSecs
  else
    []

/-- Lower bounds on the breaker section. -/
def breakerViolations (breaker : Breaking) : List Violation :=
  positive "circuit_breaker.failure_threshold" breaker.failureThreshold ++
    positive "circuit_breaker.half_open_max_calls" breaker.halfOpenMaxCalls

/-- The metrics address is empty or can be listened on. -/
def addressViolations (observability : Observability) : List Violation :=
  report (!observability.metricsAddress.isEmpty && !Address.isValid observability.metricsAddress)
    "observability.metrics_address"
    ("'" ++ observability.metricsAddress ++ "' is not a valid socket address")

/-- Bounds on the thresholds. -/
def thresholdViolations (thresholds : Thresholds) : List Violation :=
  withinUnit "thresholds.min_success_rate" thresholds.minSuccessRate ++
    withinUnit "thresholds.min_cache_hit_rate" thresholds.minCacheHitRate ++
    withinUnit "thresholds.max_error_rate" thresholds.maxErrorRate ++
    report (thresholds.minThroughputRps < 0.0)
      "thresholds.min_throughput_rps" "must not be negative"

/-- The caps. -/
def capViolations (settings : Settings) : List Violation :=
  atMost "execution.request_timeout_ms" settings.execution.requestTimeoutMs maxTimeoutMs ++
    atMost "execution.submit_timeout_ms" settings.execution.submitTimeoutMs maxTimeoutMs ++
    atMost "execution.batch_timeout_multiplier" settings.execution.batchTimeoutMultiplier
      maxBatchTimeoutMultiplier ++
    atMost "cache.ttl_secs" settings.cache.ttlSecs maxCacheTtlSecs ++
    atMost "cache.cleanup_interval_secs" settings.cache.cleanupIntervalSecs maxIntervalSecs ++
    atMost "circuit_breaker.recovery_timeout_secs" settings.circuitBreaker.recoveryTimeoutSecs
      maxIntervalSecs

/-- All violations of the constraints, in their order. -/
def violations (settings : Settings) : List Violation :=
  executionViolations settings.execution ++
    cacheViolations settings.cache ++
    breakerViolations settings.circuitBreaker ++
    addressViolations settings.observability ++
    thresholdViolations settings.thresholds ++
    capViolations settings

/-- Accept settings that break no constraint. -/
def validate (settings : Settings) : Except (List Violation) Unit :=
  match violations settings with
  | [] => .ok ()
  | broken => .error broken

end RiskGate.Config
