import RiskGate.Assessment
import RiskGate.Breaker
import RiskGate.Json.Value
import RiskGate.Metrics.Exposition
import RiskGate.Metrics.Health
import RiskGate.Pool.Floor

/-!
# Documents

Requests, answers and the states of an engine's parts as JSON documents.  The
members of a document about an engine stand in alphabetical order.
-/

namespace RiskGate

open Json (Value)

/-- A value, or null. -/
def orNull {α : Type} (toJson : α → Value) : Option α → Value
  | some value => toJson value
  | none => .null

/-! ## Requests and answers -/

def Request.toJson (request : Request) : Value :=
  .object [
    ("business_name", .string request.businessName),
    ("address", .string request.address),
    ("industry", .string request.industry),
    ("country", .string request.country),
    ("annual_revenue", orNull .real request.annualRevenue),
    ("employee_count", orNull .integer request.employeeCount),
    ("years_in_business", orNull .integer request.yearsInBusiness)]

def Factor.toJson (factor : Factor) : Value :=
  .object [
    ("name", .string factor.name),
    ("impact", .real factor.impact),
    ("description", .string factor.description)]

def Assessment.toJson (assessment : Assessment) : Value :=
  .object [
    ("risk_score", .real assessment.score),
    ("risk_level", .string assessment.level.name),
    ("confidence", .real assessment.confidence),
    ("factors", .array (assessment.factors.map Factor.toJson)),
    ("model", .string assessment.model)]

def Prediction.toJson (prediction : Prediction) : Value :=
  .object [
    ("horizon_months", .integer prediction.horizonMonths),
    ("current_score", .real prediction.currentScore),
    ("predicted_score", .real prediction.predictedScore),
    ("risk_level", .string prediction.level.name),
    ("trend", .string prediction.trend.name),
    ("confidence", .real prediction.confidence),
    ("model", .string prediction.model)]

/-! ## The parts of an engine -/

def Cache.Stats.toJson (stats : Cache.Stats) : Value :=
  .object [
    ("hit_rate", .real stats.hitRate),
    ("hits", .integer stats.hits),
    ("max_size", .integer stats.maxSize),
    ("misses", .integer stats.misses),
    ("size", .integer stats.size)]

/-- A breaker as it stands at an instant. -/
def Breaker.toJson (now : Nat) (breaker : Breaker) : Value :=
  .object [
    ("consecutive_failures", .integer breaker.failureRun),
    ("failure_threshold", .integer breaker.threshold),
    ("half_open_calls", .integer breaker.trials),
    ("half_open_max_calls", .integer breaker.trialLimit),
    ("ms_since_last_failure", orNull .integer (breaker.millisSinceFailure now)),
    ("state", .string breaker.circuit.name),
    ("total_calls", .integer breaker.calls),
    ("total_failures", .integer breaker.failures),
    ("total_rejections", .integer breaker.rejections),
    ("total_successes", .integer breaker.successes)]

def Metrics.Snapshot.toJson (snapshot : Metrics.Snapshot) : Value :=
  .object [
    ("avg_batch_duration_ms", .real snapshot.avgBatchDurationMs),
    ("avg_batch_size", .real snapshot.avgBatchSize),
    ("avg_duration_ms", .real snapshot.avgDurationMs),
    ("batch_items", .integer snapshot.batchItems),
    ("batch_requests", .integer snapshot.batchRequests),
    ("cache_hit_rate", .real snapshot.cacheHitRate),
    ("cache_hits", .integer snapshot.cacheHits),
    ("cache_misses", .integer snapshot.cacheMisses),
    ("error_rate", .real snapshot.errorRate),
    ("errors_by_type",
      .object (snapshot.errorsByType.map fun (kind, count) => (kind, .integer count))),
    ("failed_requests", .integer snapshot.failedRequests),
    ("max_duration_ms", .real snapshot.maxDurationMs),
    ("min_duration_ms", .real snapshot.minDurationMs),
    ("success_rate", .real snapshot.successRate),
    ("successful_requests", .integer snapshot.successfulRequests),
    ("throughput_rps", .real snapshot.throughputRps),
    ("total_requests", .integer snapshot.totalRequests),
    ("uptime_secs", .real snapshot.uptimeSecs)]

def Metrics.HealthReport.toJson (report : Metrics.HealthReport) : Value :=
  .object [
    ("healthy", .boolean report.healthy),
    ("violations", .array (report.violations.map .string))]

/-- The books of a pool. -/
def Pool.Floor.toJson {ε τ ρ : Type} (floor : Pool.Floor ε τ ρ) : Value :=
  .object [
    ("completed", .integer floor.completed),
    ("queue_capacity", .integer floor.capacity),
    ("queued", .integer floor.queued),
    ("rejected", .integer floor.rejected),
    ("shut_down", .boolean floor.shut),
    ("submitted", .integer floor.submitted),
    ("workers", .integer floor.workers)]

/-- All series of an exposition. -/
def Metrics.Exposition.toJson (series : Metrics.Exposition) : Value :=
  .object [
    ("counters", .object (series.counters.map fun (name, count) => (name, .integer count))),
    ("gauges", .object (series.gauges.map fun (name, value) => (name, .real value))),
    ("histograms",
      .object (series.histograms.map fun (name, samples) => (name, .array (samples.map .real))))]

/-! ## Failures and outcomes -/

mutual

/-- The members that tell a failure: its kind, its message, and for a batch its
size and the failures of its items. -/
def Failure.members : Failure → List (String × Value)
  | .batch total failures =>
      [("error", .string (Failure.batch total failures).kind.name),
        ("message", .string (Failure.batch total failures).message),
        ("total", .integer total),
        ("failures", .array (failureRows failures))]
  | failure =>
      [("error", .string failure.kind.name), ("message", .string failure.message)]

/-- The failures of the items of a batch, each with its position. -/
def failureRows : List (Nat × Failure) → List Value
  | [] => []
  | (position, failure) :: rest =>
      .array [.integer position, .object failure.members] :: failureRows rest

end

/-- The members that tell an outcome. -/
def outcomeMembers {α : Type} (toJson : α → Value) : Outcome α → List (String × Value)
  | .ok value => [("ok", toJson value)]
  | .error failure => failure.members

end RiskGate
