import RiskGate.Proofs.BatchOutcome
import RiskGate.Proofs.Config.Constraints
import RiskGate.Proofs.Simulation.Traffic

/-!
# The report of a simulation reconciles

A report tells the same traffic several times over: in the metrics, in the books of the cache
and of the breaker, and in the failures that the simulation has counted itself.  Here the
counters are read off the document that is printed, and they add up, however many requests
were sent, whatever the cache has kept, and however often the breaker has opened on the way.
-/

namespace RiskGate.Simulation

open Json (Value)
open Engine (Operation Service)

/-! ## Statement -/

/-- The count at a path of names in a document, if there is one. -/
def count? : List String → Value → Option Nat
  | [], .integer (.ofNat count) => some count
  | name :: rest, .object members => (members.lookup name).bind (count? rest)
  | _, _ => none

/-- Counters of a report. -/
structure Figures where
  hits : Nat
  misses : Nat
  total : Nat
  failed : Nat
  /-- The books of the cache. -/
  cacheHits : Nat
  cacheMisses : Nat
  /-- The books of the breaker. -/
  calls : Nat
  successes : Nat
  failures : Nat
  rejections : Nat
  singleFailures : Nat
  /-- Nothing where the batch was refused. -/
  batchFailures? : Option Nat
deriving DecidableEq, Repr

/-- The counters of a report, if it has them. -/
def Figures.of? (report : Value) : Option Figures := do
  return {
    hits := ← count? ["metrics", "cache_hits"] report
    misses := ← count? ["metrics", "cache_misses"] report
    total := ← count? ["metrics", "total_requests"] report
    failed := ← count? ["metrics", "failed_requests"] report
    cacheHits := ← count? ["cache", "hits"] report
    cacheMisses := ← count? ["cache", "misses"] report
    calls := ← count? ["circuit_breaker", "total_calls"] report
    successes := ← count? ["circuit_breaker", "total_successes"] report
    failures := ← count? ["circuit_breaker", "total_failures"] report
    rejections := ← count? ["circuit_breaker", "total_rejections"] report
    singleFailures := ← count? ["single_request_failures"] report
    batchFailures? := count? ["batch", "failed"] report }

/-- The batch is no larger than the pool allows. -/
def Fits (settings : Config.Settings) (options : Options) : Prop :=
  options.batchSize ≤ settings.execution.maxConcurrentRequests

instance (settings : Config.Settings) (options : Options) : Decidable (Fits settings options) :=
  inferInstanceAs (Decidable (_ ≤ _))

/-- The counters of a simulation with settings and options add up. -/
structure Figures.Reconcile (settings : Config.Settings) (options : Options)
    (figures : Figures) : Prop where
  /-- Every request was looked up once, those of the batch if it was not refused. -/
  lookups : figures.hits + figures.misses =
    options.requests + if Fits settings options then options.batchSize else 0
  /-- The cache says the same. -/
  cache : (figures.cacheHits, figures.cacheMisses) = (figures.hits, figures.misses)
  /-- Every request that was not found counts as one, -/
  total : figures.total = figures.misses
  /-- and was admitted or rejected by the breaker. -/
  asked : figures.misses = figures.calls + figures.rejections
  /-- Every call has ended. -/
  settled : figures.calls = figures.successes + figures.failures
  /-- The batch tells its failures if it was not refused. -/
  batch : figures.batchFailures?.isSome = true ↔ Fits settings options
  /-- Every failure counts once. -/
  failed : figures.failed = figures.singleFailures + figures.batchFailures?.getD 0
  /-- A service that does not fail leaves nothing to fail. -/
  flawless : options.failureRate = 0.0 →
    figures.singleFailures = 0 ∧ figures.batchFailures?.getD 0 = 0

/-! ## The service -/

theorem service_instant {options : Options} (prompt : options.latency = 0) :
    (service options).Instant :=
  fun _ _ _ _ => prompt

/-- The name of a business does not consist of blanks. -/
theorem business_named (index : Nat) :
    (Text.trim (business index).businessName.toList).isEmpty = false := by
  have initial : 'B' ∈ (business index).businessName.toList := by
    change 'B' ∈ ("Business " ++ toString index).toList
    rw [String.toList_append]
    exact List.mem_append_left _ (by decide)
  rw [List.isEmpty_eq_false_iff, ne_eq, Config.trim_eq_nil_iff]
  exact fun blank => absurd (blank 'B' initial) (by decide)

section Service

variable (options : Options) (number : Nat) (model : String) (request : Request)

theorem service_assess : ((service options).reply number .assess model request).outcome =
    assess (1.0 ≤ options.failureRate) model request :=
  rfl

theorem service_predict (horizon : Nat) :
    ((service options).reply number (.predict horizon) model request).outcome =
      predict (1.0 ≤ options.failureRate) model request horizon :=
  rfl

end Service

/-- A service that is in order fails no business. -/
theorem service_obliges {options : Options} (inOrder : ¬ 1.0 ≤ options.failureRate)
    (operation : Operation) (index : Nat) :
    (service options).Obliges operation (business index) := by
  intro number model
  cases operation with
  | assess =>
      rw [service_assess, decide_eq_false inOrder, assess, business_named,
        if_neg Bool.false_ne_true, if_neg Bool.false_ne_true]
      rfl
  | predict horizon =>
      rw [service_predict, decide_eq_false inOrder, predict, if_neg Bool.false_ne_true]
      rfl

/-! ## Reading a report -/

theorem figures_report {settings : Config.Settings} {options : Options} {engine : Engine}
    {answer : Outcome BatchOutcome} {collector : Metrics.Collector}
    (ran : run settings options = (engine, some answer))
    (metered : engine.core.collector = some collector) :
    Figures.of? (report settings options) = some
      { hits := collector.hits
        misses := collector.misses
        total := collector.total
        failed := collector.failed
        cacheHits := engine.core.cache.stats.hits
        cacheMisses := engine.core.cache.stats.misses
        calls := engine.core.breaker.calls
        successes := engine.core.breaker.successes
        failures := engine.core.breaker.failures
        rejections := engine.core.breaker.rejections
        singleFailures := engine.guests.countP (!succeeded ·)
        batchFailures? := answer.toOption.map BatchOutcome.failureCount } := by
  have snapshot : engine.snapshot? = some (collector.snapshot (Engine.nanosAt engine.now)) := by
    rw [Engine.snapshot?, metered]
    rfl
  unfold report
  rw [ran]
  dsimp only
  rw [snapshot]
  cases answer with
  | ok outcome => rfl
  | error failure => rfl

/-! ## The law -/

section Law

variable {settings : Config.Settings} {options : Options}

/-- The single requests are answered, and none fails if the service is in order. -/
theorem served_sent (metered : settings.observability.metricsEnabled = true)
    (prompt : options.latency = 0) :
    Served settings (service options) 0 options.requests (sent settings options) ∧
      (¬ 1.0 ≤ options.failureRate → Flawless (sent settings options)) := by
  obtain ⟨served, flawless⟩ :=
    (served_make (service options) metered).asks (service_instant prompt) (singles options)
  rw [Nat.zero_add, singles, List.length_map, List.length_range] at served
  refine ⟨served, fun inOrder => flawless (flawless_make settings (service options)) ?_⟩
  intro asked member
  obtain ⟨index, _, rfl⟩ := List.mem_map.mp member
  exact service_obliges inOrder _ _

/-- What a simulation comes to: its engine was asked for so many requests, and has failed as many
as the report says. -/
theorem run_reckoned (valid : Config.validate settings = .ok ())
    (metered : settings.observability.metricsEnabled = true)
    (patient : 1 ≤ settings.execution.submitTimeoutMs) (prompt : options.latency = 0) :
    ∃ engine answer, run settings options = (engine, some answer) ∧
      engine.core.Reckoned
        (options.requests + if Fits settings options then options.batchSize else 0)
        (engine.guests.countP (!succeeded ·) +
          (answer.toOption.map BatchOutcome.failureCount).getD 0) ∧
      (answer.toOption.isSome = true ↔ Fits settings options) ∧
      (¬ 1.0 ≤ options.failureRate → engine.guests.countP (!succeeded ·) = 0 ∧
        (answer.toOption.map BatchOutcome.failureCount).getD 0 = 0) := by
  obtain ⟨served, flawless⟩ := served_sent metered prompt
  have size : (batchRequests options).length = options.batchSize := by
    rw [batchRequests, List.length_map, List.length_range]
  have noGuest : ¬ 1.0 ≤ options.failureRate →
      (sent settings options).guests.countP (!succeeded ·) = 0 := by
    intro inOrder
    rw [List.countP_eq_zero]
    intro guest member
    rw [(flawless inOrder).succeeded guest member]
    exact Bool.false_ne_true
  by_cases fits : Fits settings options
  · have notTooMany : (batchRequests options).length ≤
        settings.execution.maxConcurrentRequests := size ▸ fits
    obtain ⟨outcomes, answer, reckoned, perfect⟩ :=
      served.batched (service_instant prompt) valid patient notTooMany
    rw [size] at reckoned
    refine ⟨_, .ok ⟨outcomes⟩, run_eq served answer, ?_, iff_of_true rfl fits, ?_⟩
    · rw [served.batched_guests, if_pos fits]
      change Engine.Core.Reckoned _ (_ + BatchOutcome.failureCount ⟨outcomes⟩) _
      rw [BatchOutcome.failureCount_eq]
      exact reckoned
    · intro inOrder
      rw [served.batched_guests]
      refine ⟨noGuest inOrder, ?_⟩
      change BatchOutcome.failureCount ⟨outcomes⟩ = 0
      rw [BatchOutcome.failureCount_eq, List.countP_eq_zero]
      intro outcome member
      rw [perfect (flawless inOrder) ?_ outcome member]
      · exact Bool.false_ne_true
      · intro request isSent
        obtain ⟨index, _, rfl⟩ := List.mem_map.mp isSent
        exact service_obliges inOrder _ _
  · have tooMany := Nat.not_le.mp fits
    rw [← size] at tooMany
    obtain ⟨answer, core⟩ := served.refused valid tooMany
    refine ⟨_, _, run_eq served answer, ?_, iff_of_false Bool.false_ne_true fits, ?_⟩
    · rw [served.batched_guests, if_neg fits, core]
      exact served.reckoned
    · intro inOrder
      rw [served.batched_guests]
      exact ⟨noGuest inOrder, rfl⟩

/-- However many requests a simulation sends, and whatever becomes of them while the service
answers at once: its report adds up.  Each request takes its turn before the next one is sent. -/
theorem report_reconciles (valid : Config.validate settings = .ok ())
    (metered : settings.observability.metricsEnabled = true)
    (patient : 1 ≤ settings.execution.submitTimeoutMs) (prompt : options.latency = 0) :
    ∃ figures, Figures.of? (report settings options) = some figures ∧
      figures.Reconcile settings options := by
  obtain ⟨engine, answer, ran, reckoned, batch, flawless⟩ :=
    run_reckoned valid metered patient prompt
  obtain ⟨collector, found, accord⟩ := reckoned.agreed
  have counts := reckoned.counts collector found
  refine ⟨_, figures_report ran found, ?_⟩
  constructor
  · exact counts.asked
  · exact accord.lookups.symm
  · exact counts.total
  · exact counts.missed.symm
  · exact accord.settled
  · rw [Option.isSome_map]
    exact batch
  · exact counts.failed
  · intro never
    apply flawless
    rw [never]
    decide

end Law

/-- A simulation of a service that is out of order. -/
def blackout : Options where
  requests := 12
  businesses := 4
  batchSize := 3
  failureRate := 1.0
  latency := 0

theorem report_reconciles_blackout :
    Config.validate {} = .ok () ∧
      ∃ figures, Figures.of? (report {} blackout) = some figures ∧
        figures.Reconcile {} blackout :=
  ⟨rfl, report_reconciles rfl rfl (by decide) rfl⟩

/-- The fifth failure opens the breaker, which rejects all requests after it. -/
example : Figures.of? (report {} blackout) = some
    { hits := 0, misses := 15, total := 15, failed := 15, cacheHits := 0, cacheMisses := 15
      calls := 5, successes := 0, failures := 5, rejections := 10
      singleFailures := 12, batchFailures? := some 3 } := by
  decide +kernel

end RiskGate.Simulation
