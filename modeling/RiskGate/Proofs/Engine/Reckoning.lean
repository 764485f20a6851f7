import RiskGate.Proofs.Engine.Accord

/-!
# The books of requests that are answered at once

While the service answers at once, a request is answered in the turn in which it is asked
for.  It is looked up in the cache, and found there or not.  If it is not found, it takes
itself to the breaker, which admits or rejects it, and whatever becomes of it is counted in
the metrics as one request.  If it is found, nothing else is counted.

So the books tell how many requests were asked for and how many of them have failed, whatever
the cache has kept and however the breaker has moved.
-/

namespace RiskGate

/-! ## Requests to a breaker -/

namespace Breaker

variable (breaker : Breaker)

/-- How often the breaker was asked for admission. -/
def asks : Nat := breaker.calls + breaker.rejections

theorem asks_acquire (now : Nat) : (breaker.acquire now).1.asks = breaker.asks + 1 := by
  unfold asks
  rcases breaker.adds_acquire now with ⟨_, _, adds⟩ | ⟨_, adds⟩
  · rw [adds.calls, adds.rejections]
    omega
  · rw [adds.calls, adds.rejections]
    omega

theorem asks_learn {α : Type} (admission now : Nat) (outcome : Outcome α) :
    (breaker.learn admission now outcome).asks = breaker.asks := by
  unfold asks
  cases outcome with
  | ok value =>
      have adds := breaker.adds_succeed admission
      rw [learn, adds.calls, adds.rejections]
      rfl
  | error failure =>
      have adds := breaker.adds_fail admission now
      rw [learn, adds.calls, adds.rejections]
      rfl

variable {breaker}

theorem acquire_of_closed (closed : breaker.circuit = .closed) (now : Nat) :
    breaker.acquire now = breaker.admitted := by
  rw [acquire, closed]

/-- A success leaves a closed breaker closed. -/
theorem succeed_of_closed (closed : breaker.circuit = .closed) (generation : Nat) :
    (breaker.succeed generation).circuit = .closed := by
  unfold succeed
  dsimp only
  split
  · exact closed
  · rw [closed]

end Breaker

/-- A request is counted that has ended. -/
def Metrics.Collector.recordOutcome {α : Type} (took : Span) (outcome : Outcome α)
    (collector : Collector) : Collector :=
  match outcome with
  | .ok _ => collector.recordRequest took
  | .error failure => collector.recordError failure.kind.name

namespace Engine

open Metrics (Collector)

namespace Service

variable (service : Service)

/-- The service answers every call at once. -/
def Instant : Prop :=
  ∀ number operation model request, (service.reply number operation model request).latency = 0

/-- The service fails no call for an operation and a request. -/
def Obliges (operation : Operation) (request : Request) : Prop :=
  ∀ number model, (service.reply number operation model request).outcome.isOk = true

end Service

/-! ## Errands that end at once -/

namespace Core

variable (now : Nat) (operation : Operation) (request : Request) (core : Core)

/-- A request that was not found asks the breaker once, and changes nothing but the breaker and
the calls. -/
theorem sought_fst : ∃ breaker calls, breaker.asks = core.breaker.asks + 1 ∧
    (core.sought now operation request).1 =
      { core with breaker := breaker, calls := calls } := by
  have asks := core.breaker.asks_acquire (nanosAt now)
  unfold sought
  rcases acquired : core.breaker.acquire (nanosAt now) with ⟨breaker, _ | admission⟩ <;>
    rw [acquired] at asks
  · exact ⟨breaker, core.calls, asks, rfl⟩
  · exact ⟨_, _, (breaker.asks_learn admission _ _).trans asks, rfl⟩

/-- Through a closed breaker, a request that the service does not fail succeeds, and the breaker
remains closed. -/
theorem sought_of_closed (closed : core.breaker.circuit = .closed)
    (obliges : core.service.Obliges operation request) :
    (core.sought now operation request).2.isOk = true ∧
      (core.sought now operation request).1.breaker.circuit = .closed := by
  have isOk := obliges core.calls.length core.model
  unfold sought
  rw [Breaker.acquire_of_closed closed]
  dsimp only [Breaker.admitted, called]
  cases outcome : (core.service.reply core.calls.length operation core.model request).outcome with
  | ok value =>
      have stillClosed : core.breaker.admitted.1.circuit = .closed := closed
      exact ⟨rfl, Breaker.succeed_of_closed stillClosed _⟩
  | error cause =>
      rw [outcome] at isOk
      cases isOk

end Core

namespace Errand

variable {operation : Operation} {now : Nat} {core : Core}

/-- An errand without a slot that ends stores its result, and counts as one request. -/
theorem finish_alone (now : Nat) (errand : Errand operation) (alone : errand.slot = none)
    (outcome : RiskGate.Outcome operation.Result) (core : Core) :
    ∃ cache, (errand.finish now now outcome core).1 =
      { core with
        cache := cache
        collector :=
          core.collector.map (·.recordOutcome (Span.ofMillis (now - now)) outcome) } := by
  cases outcome with
  | ok value =>
      refine ⟨core.cache.set (nanosAt now) errand.key (operation.toAnswer value), ?_⟩
      rw [finish, alone]
      rfl
  | error failure =>
      refine ⟨core.cache, ?_⟩
      rw [finish, alone]
      rfl

end Errand

/-! ## The books -/

/-- The counters when so many requests were asked for, of which so many have failed. -/
structure Counts (asked failed : Nat) (breaker : Breaker) (collector : Collector) : Prop where
  /-- Every request was looked up. -/
  asked : collector.hits + collector.misses = asked
  /-- Every request that was not found counts as one, -/
  total : collector.total = collector.misses
  /-- and has asked the breaker. -/
  missed : breaker.asks = collector.misses
  failed : collector.failed = failed

namespace Counts

variable {asked failed : Nat} {breaker : Breaker} {collector : Collector}

/-- A request is found in the cache. -/
theorem remember (counts : Counts asked failed breaker collector) :
    Counts (asked + 1) failed breaker collector.recordHit where
  asked := by
    rw [← counts.asked]
    exact Nat.add_right_comm _ _ _
  total := counts.total
  missed := counts.missed
  failed := counts.failed

/-- A request is not found, asks the breaker and ends. -/
theorem seek (counts : Counts asked failed breaker collector) {next : Breaker}
    (asks : next.asks = breaker.asks + 1) {α : Type} (outcome : Outcome α) (took : Span) :
    Counts (asked + 1) (failed + if !outcome.isOk then 1 else 0) next
      (collector.recordMiss.recordOutcome took outcome) := by
  have total : collector.total + 1 = collector.misses + 1 := congrArg (· + 1) counts.total
  have missed : next.asks = collector.misses + 1 := asks.trans (congrArg (· + 1) counts.missed)
  have asked : collector.hits + (collector.misses + 1) = asked + 1 := congrArg (· + 1) counts.asked
  cases outcome with
  | ok value => exact ⟨asked, total, missed, counts.failed⟩
  | error failure => exact ⟨asked, total, missed, congrArg (· + 1) counts.failed⟩

end Counts

/-- The books of all parts when so many requests were asked for, of which so many have
failed, and none is under way. -/
structure Core.Reckoned (asked failed : Nat) (core : Core) : Prop where
  agreed : core.Agreed 0
  counts : ∀ collector ∈ core.collector, Counts asked failed core.breaker collector

namespace Core.Reckoned

variable {settings : Config.Settings} {service : Service} {history : List Yield}
variable {asked failed now : Nat} {core : Core}

theorem make {settings : Config.Settings} (service : Service)
    (enabled : settings.observability.metricsEnabled = true) :
    (Core.make settings service).Reckoned 0 0 where
  agreed := .make service enabled
  counts := by
    intro collector member
    rw [Core.make, enabled] at member
    obtain rfl := Option.some.inj member
    exact ⟨rfl, rfl, rfl, rfl⟩

/-- A request that is asked for is answered, and leaves the books in order. -/
theorem ask (reckoned : core.Reckoned asked failed) (instant : core.service.Instant)
    (coherent : Coherent settings service history now core) (operation : Operation)
    (request : Request) :
    ∃ next outcome, ({ request := request } : Errand operation).resume false now core =
        (next, .finished outcome) ∧
      next.Reckoned (asked + 1) (failed + if !outcome.isOk then 1 else 0) ∧
      (core.breaker.circuit = .closed → core.service.Obliges operation request →
        outcome.isOk = true ∧ next.breaker.circuit = .closed) := by
  let errand : Errand operation := { request := request }
  have agreed := errand.agreed_resume reckoned.agreed rfl false now
  rcases lookup : core.lookup now errand.key with ⟨looked, _ | answer⟩
  · obtain ⟨cache, rfl, _⟩ := Core.lookup_counts lookup
    let looked : Core :=
      { core with cache := cache, collector := core.collector.map (·.recordMiss) }
    obtain ⟨breaker, calls, asks, soughtEq⟩ := looked.sought_fst now operation request
    have flawless := looked.sought_of_closed now operation request
    have resumed : errand.resume false now core =
        errand.finish now now (looked.sought now operation request).2
          (looked.sought now operation request).1 :=
      errand.resume_prompt now core rfl lookup rfl (instant _ _ _ _)
    rw [soughtEq] at flawless resumed
    let outcome := (looked.sought now operation request).2
    obtain ⟨stored, finishEq⟩ := errand.finish_alone now rfl outcome
      { looked with breaker := breaker, calls := calls }
    have ends : errand.resume false now core = (_, .finished outcome) :=
      resumed.trans (Prod.ext finishEq (errand.finish_snd now now outcome _))
    rw [ends] at agreed
    refine ⟨_, outcome, ends, ⟨agreed, ?_⟩, flawless⟩
    intro collector member
    obtain ⟨_, missed, rfl⟩ := Option.map_eq_some_iff.mp member
    obtain ⟨before, found, rfl⟩ := Option.map_eq_some_iff.mp missed
    exact (reckoned.counts before found).seek asks outcome _
  · obtain ⟨cache, rfl, _⟩ := Core.lookup_counts lookup
    obtain ⟨value, kind⟩ : ∃ value, operation.ofAnswer answer = some value := by
      have found : (core.lookup now (operation.key request)).2 = some answer := by
        rw [← errand.key_eq, lookup]
      exact coherent.kind found
    have begins := errand.resume_fresh now core false rfl lookup
    rw [Option.bind_some, kind] at begins
    rw [begins] at agreed
    refine ⟨_, .ok value, begins, ⟨agreed, ?_⟩, fun closed _ => ⟨rfl, closed⟩⟩
    intro collector member
    obtain ⟨before, found, rfl⟩ := Option.map_eq_some_iff.mp member
    exact (reckoned.counts before found).remember

end Core.Reckoned

end Engine

end RiskGate
