import RiskGate.Engine
import RiskGate.Engine.Scripted
import RiskGate.Proofs.Config.Constraints

/-!
# Settings at face value

The parts of an engine guard themselves against settings that make no sense: a number of
workers, a size or a limit of zero counts as one, and spans are cut to what the parts can
hold.  Settings that were accepted are never changed in this way.  The caps of validation,
which are given in milliseconds, in seconds and as a factor, lie below the spans at which the
parts cut.
-/

namespace RiskGate

/-! ## Spans -/

namespace Span

theorem shorter_eq_left {a b : Span} (le : a.nanos ≤ b.nanos) : a.shorter b = a :=
  if_pos le

theorem longer_eq_left {a b : Span} (le : b.nanos ≤ a.nanos) : a.longer b = a := by
  unfold longer
  split
  next back =>
    obtain ⟨left⟩ := a
    obtain ⟨right⟩ := b
    exact congrArg Span.mk (Nat.le_antisymm le back)
  · rfl

/-- A product that no span is too short for is not cut. -/
theorem times_eq {span : Span} {count : Nat} (fits : span.nanos * count ≤ longest.nanos) :
    span.times count = ⟨span.nanos * count⟩ :=
  shorter_eq_left fits

theorem ofMillis_mul (millis count : Nat) :
    ofMillis (millis * count) = ⟨(ofMillis millis).nanos * count⟩ :=
  congrArg Span.mk (Nat.mul_right_comm _ _ _)

end Span

/-! ## Bounds on accepted settings -/

namespace Config

/-- What the parts of an engine rely on. -/
structure Settings.Sane (settings : Settings) : Prop where
  workers : 0 < settings.execution.maxConcurrentRequests
  places : 0 < settings.execution.queueCapacity
  requestTimeout : 0 < settings.execution.requestTimeoutMs
  requestCap : settings.execution.requestTimeoutMs ≤ 60 * 60 * 1000
  multiplier : 0 < settings.execution.batchTimeoutMultiplier
  multiplierCap : settings.execution.batchTimeoutMultiplier ≤ 100
  threshold : 0 < settings.circuitBreaker.failureThreshold
  trials : 0 < settings.circuitBreaker.halfOpenMaxCalls
  ttl : settings.cache.enabled = true → 0 < settings.cache.ttlSecs
  ttlCap : settings.cache.ttlSecs ≤ 365 * 24 * 60 * 60
  maxSize : settings.cache.enabled = true → 0 < settings.cache.maxSize
  interval : settings.cache.enabled = true → 0 < settings.cache.cleanupIntervalSecs
  intervalCap : settings.cache.cleanupIntervalSecs ≤ 24 * 60 * 60

variable {settings : Settings}

/-- A number that has to be positive is. -/
theorem pos_of_validate (valid : validate settings = .ok ()) (field : String)
    (whileCaching : Bool) (inForce : whileCaching = true → settings.cache.enabled = true)
    (listed : ⟨field, .positive, whileCaching⟩ ∈ constraints) {number : Nat}
    (found : settings.value field = .integer number) : 0 < number := by
  have met := validate_eq_ok_iff.mp valid _ listed inForce
  rw [found] at met
  exact Int.natCast_pos.mp met

/-- A number that has a cap does not exceed it. -/
theorem le_of_validate (valid : validate settings = .ok ()) (field : String) {maximum : Nat}
    (listed : ⟨field, .atMost maximum, false⟩ ∈ constraints) {number : Nat}
    (found : settings.value field = .integer number) : number ≤ maximum := by
  have met := validate_eq_ok_iff.mp valid _ listed Constraint.always
  rw [found] at met
  exact Int.ofNat_le.mp met

/-- Accepted settings are sane. -/
theorem sane_of_validate (valid : validate settings = .ok ()) : settings.Sane where
  workers := pos_of_validate valid "execution.max_concurrent_requests" false nofun (by decide) rfl
  places := pos_of_validate valid "execution.queue_capacity" false nofun (by decide) rfl
  requestTimeout := pos_of_validate valid "execution.request_timeout_ms" false nofun (by decide) rfl
  requestCap := le_of_validate valid "execution.request_timeout_ms" (by decide) rfl
  multiplier :=
    pos_of_validate valid "execution.batch_timeout_multiplier" false nofun (by decide) rfl
  multiplierCap := le_of_validate valid "execution.batch_timeout_multiplier" (by decide) rfl
  threshold := pos_of_validate valid "circuit_breaker.failure_threshold" false nofun (by decide) rfl
  trials := pos_of_validate valid "circuit_breaker.half_open_max_calls" false nofun (by decide) rfl
  ttl caching := pos_of_validate valid "cache.ttl_secs" true (fun _ => caching) (by decide) rfl
  ttlCap := le_of_validate valid "cache.ttl_secs" (by decide) rfl
  maxSize caching := pos_of_validate valid "cache.max_size" true (fun _ => caching) (by decide) rfl
  interval caching :=
    pos_of_validate valid "cache.cleanup_interval_secs" true (fun _ => caching) (by decide) rfl
  intervalCap := le_of_validate valid "cache.cleanup_interval_secs" (by decide) rfl

/-- A batch of accepted settings may take exactly so many times the time of one request. -/
theorem Settings.Sane.batchTimeout_eq (sane : settings.Sane) :
    settings.batchTimeout = Span.ofMillis
      (settings.execution.requestTimeoutMs * settings.execution.batchTimeoutMultiplier) := by
  have product : settings.execution.requestTimeoutMs * settings.execution.batchTimeoutMultiplier ≤
      60 * 60 * 1000 * 100 :=
    Nat.mul_le_mul sane.requestCap sane.multiplierCap
  have cap : (Span.ofMillis (60 * 60 * 1000 * 100)).nanos ≤ Span.longest.nanos := by decide
  rw [Span.ofMillis_mul]
  apply Span.times_eq
  calc settings.requestTimeout.nanos * settings.execution.batchTimeoutMultiplier
      = (Span.ofMillis (settings.execution.requestTimeoutMs *
          settings.execution.batchTimeoutMultiplier)).nanos := by rw [Span.ofMillis_mul]; rfl
    _ ≤ (Span.ofMillis (60 * 60 * 1000 * 100)).nanos := Nat.mul_le_mul_right _ product
    _ ≤ Span.longest.nanos := cap

theorem Settings.Sane.batchTimeout_pos (sane : settings.Sane) :
    0 < settings.batchTimeout.nanos := by
  rw [sane.batchTimeout_eq]
  exact Nat.mul_pos (Nat.mul_pos sane.requestTimeout sane.multiplier) (by decide)

/-- The cache of accepted settings keeps entries as long as they say, and sweeps as often. -/
theorem Settings.Sane.cache_eq {V : Type} (sane : settings.Sane)
    (caching : settings.cache.enabled = true) :
    (Cache.Store.make settings.cacheTtl settings.cache.maxSize settings.cleanupInterval :
        Cache.Store V) =
      .expiring { ttl := settings.cacheTtl, maxSize := settings.cache.maxSize }
        { interval := settings.cleanupInterval } := by
  have year : (Span.ofSecs (365 * 24 * 60 * 60)).nanos ≤ Cache.longestLife.nanos := by decide
  have day : (Span.ofSecs (24 * 60 * 60)).nanos ≤ Cache.longestLife.nanos := by decide
  have second : (Span.ofMillis 1).nanos ≤ (Span.ofSecs 1).nanos := by decide
  have ttl : settings.cacheTtl.nanos ≤ (Span.ofSecs (365 * 24 * 60 * 60)).nanos :=
    Nat.mul_le_mul_right _ sane.ttlCap
  have above : settings.cleanupInterval.nanos ≤ (Span.ofSecs (24 * 60 * 60)).nanos :=
    Nat.mul_le_mul_right _ sane.intervalCap
  have below : (Span.ofSecs 1).nanos ≤ settings.cleanupInterval.nanos :=
    Nat.mul_le_mul_right _ (sane.interval caching)
  rw [Cache.Store.make, Cache.Expiring.make, Cache.Sweeper.make,
    Span.shorter_eq_left (ttl.trans year), Span.longer_eq_left (second.trans below),
    Span.shorter_eq_left (above.trans day), Nat.max_eq_left (sane.maxSize caching)]

end Config

/-! ## Engines -/

namespace Engine

open Pool (Floor)

/-- The parts of an engine are as the settings say. -/
structure AtFaceValue (settings : Config.Settings) (engine : Engine) : Prop where
  /-- There are as many workers as set, all of them idle. -/
  workers : engine.floor.workers = settings.execution.maxConcurrentRequests ∧
    engine.floor.idle = List.range settings.execution.maxConcurrentRequests
  /-- The queue has as many places as set, all of them free. -/
  places : engine.floor.capacity = settings.execution.queueCapacity ∧
    engine.floor.free = settings.execution.queueCapacity
  /-- The breaker opens, recovers and tries as set. -/
  breaker : engine.core.breaker =
    { threshold := settings.circuitBreaker.failureThreshold
      recovery := Span.ofSecs settings.circuitBreaker.recoveryTimeoutSecs
      trialLimit := settings.circuitBreaker.halfOpenMaxCalls }
  /-- While caching is on, entries live as long as set, as many are kept as set, and they are
  swept as often as set. -/
  cache : settings.cache.enabled = true → engine.core.cache =
    .expiring { ttl := Span.ofSecs settings.cache.ttlSecs, maxSize := settings.cache.maxSize }
      { interval := Span.ofSecs settings.cache.cleanupIntervalSecs }
  /-- A batch may take as many milliseconds as the product says. -/
  batchTimeout : engine.settings.batchTimeout = Span.ofMillis
    (settings.execution.requestTimeoutMs * settings.execution.batchTimeoutMultiplier)
  /-- One request may not take longer than a batch. -/
  inTime : engine.settings.requestTimeout.nanos ≤ engine.settings.batchTimeout.nanos

/-- An engine that is made from accepted settings takes them at face value. -/
theorem make_at_face_value {settings : Config.Settings}
    (valid : Config.validate settings = .ok ()) (service : Service) :
    (make settings service).AtFaceValue settings := by
  have sane := Config.sane_of_validate valid
  have workers : max settings.execution.maxConcurrentRequests 1 =
      settings.execution.maxConcurrentRequests := Nat.max_eq_left sane.workers
  have places : max settings.execution.queueCapacity 1 = settings.execution.queueCapacity :=
    Nat.max_eq_left sane.places
  constructor
  · constructor
    · exact (List.length_replicate ..).trans workers
    · exact congrArg List.range workers
  · exact ⟨places, places⟩
  · change Breaker.make _ _ _ = _
    rw [Breaker.make, Nat.max_eq_left sane.threshold, Nat.max_eq_left sane.trials]
    rfl
  · intro caching
    change (if settings.cache.enabled = true then _ else _) = _
    rw [if_pos caching]
    exact sane.cache_eq caching
  · exact sane.batchTimeout_eq
  · change settings.requestTimeout.nanos ≤ settings.batchTimeout.nanos
    rw [sane.batchTimeout_eq]
    exact Nat.mul_le_mul_right _ (Nat.le_mul_of_pos_right _ sane.multiplier)

/-- Everything as small as it may be, but for the spans, which are as long as they may be. -/
def extreme : Config.Settings where
  execution :=
    { maxConcurrentRequests := 1
      queueCapacity := 1
      requestTimeoutMs := 60 * 60 * 1000
      batchTimeoutMultiplier := 100 }
  cache :=
    { ttlSecs := 365 * 24 * 60 * 60, maxSize := 1, cleanupIntervalSecs := 24 * 60 * 60 }
  circuitBreaker := { failureThreshold := 1, halfOpenMaxCalls := 1 }

theorem make_at_face_value_extreme :
    Config.validate extreme = .ok () ∧ (make extreme (Script.service {})).AtFaceValue extreme :=
  ⟨rfl, make_at_face_value rfl (Script.service {})⟩

end Engine

end RiskGate
