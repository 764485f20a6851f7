import RiskGate.Config.Validation
import RiskGate.Toml.Document

/-!
# Settings from a document

Each section of the settings is a table, whose unknown keys are ignored, or an
array, which gives the fields in their order.  Missing fields keep their
defaults.  A field of the wrong type, or a number outside the range of its
field, makes the document unreadable.
-/

namespace RiskGate.Config

open Toml (Node Entries)

/-- Where the fields of a section come from. -/
inductive Fields where
  | named (entries : Entries)
  | listed (items : List Node)

/-- The fields that a node offers. -/
def Fields.ofNode : Node → Option Fields
  | .table _ entries => some (.named entries)
  | .array items => some (.listed items)
  | .tables rows => some (.listed rows)
  | .moment => some (.named [])
  | _ => none

/-- The node of a field, by its name or by its position. -/
def Fields.find? (name : String) (position : Nat) : Fields → Option Node
  | named entries => entries.find? name
  | listed items => items[position]?

/-- Read a field, which keeps its default where it is missing. -/
def Fields.read {α : Type} (fields : Fields) (name : String) (position : Nat)
    (reader : Node → Option α) (default : α) : Option α :=
  match fields.find? name position with
  | none => some default
  | some node => reader node

/-- Read a natural number below a bound. -/
def readNatBelow (bound : Nat) : Node → Option Nat
  | .integer value => if 0 ≤ value && value < bound then some value.toNat else none
  | _ => none

/-- Read a number of 64 bits. -/
def readWord (node : Node) : Option Nat := readNatBelow UInt64.size node

/-- Read a number of 32 bits. -/
def readHalfWord (node : Node) : Option Nat := readNatBelow UInt32.size node

/-- Read a double; an integer counts as the nearest one. -/
def readDouble : Node → Option Float
  | .float value => some value
  | .integer value =>
      let magnitude := Span.wordFloat value.natAbs
      some (if value < 0 then -magnitude else magnitude)
  | _ => none

def readText : Node → Option String
  | .string value => some value
  | _ => none

def readTruth : Node → Option Bool
  | .boolean value => some value
  | _ => none

/-- The log format with a name. -/
def LogFormat.ofName? : String → Option LogFormat
  | "pretty" => some .pretty
  | "json" => some .json
  | _ => none

/-- A node that holds nothing. -/
def isHollow : Node → Bool
  | .table _ entries => entries.isEmpty
  | .array items => items.isEmpty
  | .tables rows => rows.isEmpty
  | _ => false

/-- Read a log format: its name, or a table with its name as the only key and
nothing under it. -/
def readLogFormat : Node → Option LogFormat
  | .string name => LogFormat.ofName? name
  | .table _ [(name, content)] => if isHollow content then LogFormat.ofName? name else none
  | _ => none

def readExecution (node : Node) : Option Execution := do
  let fields ← Fields.ofNode node
  let base : Execution := {}
  return {
    maxConcurrentRequests :=
      ← fields.read "max_concurrent_requests" 0 readWord base.maxConcurrentRequests
    queueCapacity := ← fields.read "queue_capacity" 1 readWord base.queueCapacity
    requestTimeoutMs := ← fields.read "request_timeout_ms" 2 readWord base.requestTimeoutMs
    batchTimeoutMultiplier :=
      ← fields.read "batch_timeout_multiplier" 3 readHalfWord base.batchTimeoutMultiplier
    submitTimeoutMs := ← fields.read "submit_timeout_ms" 4 readWord base.submitTimeoutMs
    modelSelector := ← fields.read "model_selector" 5 readText base.modelSelector }

def readCaching (node : Node) : Option Caching := do
  let fields ← Fields.ofNode node
  let base : Caching := {}
  return {
    enabled := ← fields.read "enabled" 0 readTruth base.enabled
    ttlSecs := ← fields.read "ttl_secs" 1 readWord base.ttlSecs
    maxSize := ← fields.read "max_size" 2 readWord base.maxSize
    cleanupIntervalSecs :=
      ← fields.read "cleanup_interval_secs" 3 readWord base.cleanupIntervalSecs }

def readBreaking (node : Node) : Option Breaking := do
  let fields ← Fields.ofNode node
  let base : Breaking := {}
  return {
    failureThreshold := ← fields.read "failure_threshold" 0 readHalfWord base.failureThreshold
    recoveryTimeoutSecs :=
      ← fields.read "recovery_timeout_secs" 1 readWord base.recoveryTimeoutSecs
    halfOpenMaxCalls :=
      ← fields.read "half_open_max_calls" 2 readHalfWord base.halfOpenMaxCalls }

def readObservability (node : Node) : Option Observability := do
  let fields ← Fields.ofNode node
  let base : Observability := {}
  return {
    logLevel := ← fields.read "log_level" 0 readText base.logLevel
    logFormat := ← fields.read "log_format" 1 readLogFormat base.logFormat
    metricsEnabled := ← fields.read "metrics_enabled" 2 readTruth base.metricsEnabled
    metricsAddress := ← fields.read "metrics_address" 3 readText base.metricsAddress }

def readThresholds (node : Node) : Option Thresholds := do
  let fields ← Fields.ofNode node
  let base : Thresholds := {}
  return {
    maxAvgLatencyMs := ← fields.read "max_avg_latency_ms" 0 readWord base.maxAvgLatencyMs
    minSuccessRate := ← fields.read "min_success_rate" 1 readDouble base.minSuccessRate
    minCacheHitRate := ← fields.read "min_cache_hit_rate" 2 readDouble base.minCacheHitRate
    maxErrorRate := ← fields.read "max_error_rate" 3 readDouble base.maxErrorRate
    minThroughputRps := ← fields.read "min_throughput_rps" 4 readDouble base.minThroughputRps }

/-- Read all settings from the root table of a document. -/
def readSettings (root : Entries) : Option Settings := do
  let fields := Fields.named root
  return {
    execution := ← fields.read "execution" 0 readExecution {}
    cache := ← fields.read "cache" 1 readCaching {}
    circuitBreaker := ← fields.read "circuit_breaker" 2 readBreaking {}
    observability := ← fields.read "observability" 3 readObservability {}
    thresholds := ← fields.read "thresholds" 4 readThresholds {} }

/-- Why no settings came out of a file. -/
inductive LoadFailure where
  /-- The file is missing or not text. -/
  | unreadable
  /-- The text is not a document, or a field has the wrong type. -/
  | malformed
  /-- The settings break constraints. -/
  | invalid (violations : List Violation)
deriving DecidableEq, Repr

/-- The message of broken constraints. -/
def violationsMessage (violations : List Violation) : String :=
  "Validation failed: " ++ String.intercalate ", " (violations.map Violation.message)

/-- Read and validate settings from a text. -/
def ofToml (text : String) : Except LoadFailure Settings :=
  match Toml.readDocument text >>= readSettings with
  | none => .error .malformed
  | some settings =>
      match validate settings with
      | .ok () => .ok settings
      | .error violations => .error (.invalid violations)

/-- Read and validate settings from the bytes of a file, if there is one. -/
def ofFile (bytes : Option ByteArray) : Except LoadFailure Settings :=
  match bytes >>= String.fromUTF8? with
  | none => .error .unreadable
  | some text => ofToml text

end RiskGate.Config
