import RiskGate.Config.Settings
import RiskGate.Json.Value

/-!
# Settings as JSON

Settings are printed section by section under the names that a document gives
them.
-/

namespace RiskGate.Config

open Json (Value)

def Execution.toJson (execution : Execution) : Value :=
  .object [
    ("max_concurrent_requests", .integer execution.maxConcurrentRequests),
    ("queue_capacity", .integer execution.queueCapacity),
    ("request_timeout_ms", .integer execution.requestTimeoutMs),
    ("batch_timeout_multiplier", .integer execution.batchTimeoutMultiplier),
    ("submit_timeout_ms", .integer execution.submitTimeoutMs),
    ("model_selector", .string execution.modelSelector)]

def Caching.toJson (cache : Caching) : Value :=
  .object [
    ("enabled", .boolean cache.enabled),
    ("ttl_secs", .integer cache.ttlSecs),
    ("max_size", .integer cache.maxSize),
    ("cleanup_interval_secs", .integer cache.cleanupIntervalSecs)]

def Breaking.toJson (breaker : Breaking) : Value :=
  .object [
    ("failure_threshold", .integer breaker.failureThreshold),
    ("recovery_timeout_secs", .integer breaker.recoveryTimeoutSecs),
    ("half_open_max_calls", .integer breaker.halfOpenMaxCalls)]

def Observability.toJson (observability : Observability) : Value :=
  .object [
    ("log_level", .string observability.logLevel),
    ("log_format", .string observability.logFormat.name),
    ("metrics_enabled", .boolean observability.metricsEnabled),
    ("metrics_address", .string observability.metricsAddress)]

def Thresholds.toJson (thresholds : Thresholds) : Value :=
  .object [
    ("max_avg_latency_ms", .integer thresholds.maxAvgLatencyMs),
    ("min_success_rate", .real thresholds.minSuccessRate),
    ("min_cache_hit_rate", .real thresholds.minCacheHitRate),
    ("max_error_rate", .real thresholds.maxErrorRate),
    ("min_throughput_rps", .real thresholds.minThroughputRps)]

def Settings.toJson (settings : Settings) : Value :=
  .object [
    ("execution", settings.execution.toJson),
    ("cache", settings.cache.toJson),
    ("circuit_breaker", settings.circuitBreaker.toJson),
    ("observability", settings.observability.toJson),
    ("thresholds", settings.thresholds.toJson)]

end RiskGate.Config
