import RiskGate.Proofs.Breaker.Announcement
import RiskGate.Proofs.Engine.Accord
import RiskGate.Proofs.Metrics.Mirror

/-!
# What an engine exports

The exported series of an engine come from its collector and its breaker.  Whatever happens to
an engine, both of them are written to in few ways: something is recorded, which enters the
counters and the ledger alike, or the breaker moves, which it announces.  Only a reset of the
metrics is different, and it leaves the ledger alone.

So the exported counters are the sums of the snapshots over all periods between resets, and the
exported position of the breaker is the present one.
-/

namespace RiskGate.Engine

open Schedule (Actor Agenda Clockwork)
open Pool (Floor)
open Metrics (Collector Exposition Mirrors MirrorLaw Recording Snapshot)

/-! ## What is written -/

/-- The collector and the breaker were written to: something was recorded, or the breaker moved
and announced it. -/
inductive Core.Writes : Core → Core → Prop where
  | tells {before after : Core} (collector : after.collector = before.collector)
      (tells : Breaker.Tells before.breaker after.breaker) : Writes before after
  | enters (core : Core) (recording : Recording) : Writes core (core.record recording.enter)
  | trans {before middle after : Core} (first : Writes before middle)
      (second : Writes middle after) : Writes before after

namespace Core

/-- Neither the collector nor the breaker was written to. -/
theorem Writes.of_eq {before after : Core} (collector : after.collector = before.collector)
    (breaker : after.breaker = before.breaker) : Writes before after :=
  .tells collector (breaker ▸ .refl _)

variable (core : Core)

theorem Writes.refl : Writes core core := .of_eq rfl rfl

theorem writes_lookup (now : Nat) (key : String) : Writes core (core.lookup now key).1 := by
  have looked : ∀ cache, Writes core { core with cache := cache } := fun _ => .of_eq rfl rfl
  unfold lookup
  dsimp only
  split
  · exact (looked _).trans (.enters _ .hit)
  · exact (looked _).trans (.enters _ .miss)

theorem writes_recordOnce (slot : Option Nat) (recording : Recording) :
    Writes core (core.recordOnce slot recording.enter) := by
  cases free : core.isFree slot with
  | false =>
      rw [core.recordOnce_of_taken free]
      exact .refl core
  | true =>
      rw [core.recordOnce_of_free free]
      exact .trans (.enters core recording) (.of_eq rfl rfl)

theorem writes_recordFailure (slot : Option Nat) (failure : Failure) :
    Writes core (core.recordFailure slot failure) :=
  core.writes_recordOnce slot (.error failure.kind.name)

variable {core}

theorem Writes.tells_breaker {after : Core} (writes : Writes core after) :
    Breaker.Tells core.breaker after.breaker := by
  induction writes with
  | tells _ tells => exact tells
  | enters core _ => exact .refl core.breaker
  | trans _ _ first second => exact first.trans second

/-- Whatever is recorded enters the counters and the ledger alike. -/
theorem Writes.mirrors {after : Core} (writes : Writes core after) {past : List Snapshot}
    {collector : Collector} (found : core.collector = some collector)
    (mirrors : Mirrors past collector) :
    ∃ next, after.collector = some next ∧ Mirrors past next := by
  induction writes generalizing collector with
  | tells same _ => exact ⟨collector, same.trans found, mirrors⟩
  | enters _ recording =>
      exact ⟨_, congrArg (Option.map recording.enter) found, mirrors.enter recording⟩
  | trans _ _ first second =>
      obtain ⟨middle, found, mirrors⟩ := first found mirrors
      exact second found mirrors

end Core

namespace Errand

variable {operation : Operation} (errand : Errand operation) (core : Core)

theorem writes_finish (now begunAt : Nat) (outcome : RiskGate.Outcome operation.Result) :
    Core.Writes core (errand.finish now begunAt outcome core).1 := by
  cases outcome with
  | ok value =>
      have stored : Core.Writes core
          { core with
            cache := core.cache.set (nanosAt now) errand.key (operation.toAnswer value) } :=
        .of_eq rfl rfl
      exact stored.trans (Core.writes_recordOnce _ _ (.request _))
  | error failure => exact core.writes_recordFailure _ failure

theorem writes_reportFailure (now : Nat) (flight : Flight operation.Result) :
    Core.Writes core (reportFailure now flight core) :=
  .tells rfl (core.breaker.tells_fail _ _)

theorem writes_proceed (cancelled : Bool) (now : Nat) (alarms : List Nat)
    (flight : Flight operation.Result) :
    Core.Writes core (errand.proceed cancelled now alarms flight core).1 := by
  have failed := writes_reportFailure core now flight
  unfold proceed
  split
  · exact failed.trans (errand.writes_finish _ now _ _)
  · split
    · have succeeded : Core.Writes core
          { core with breaker := core.breaker.succeed flight.admission } :=
        .tells rfl (core.breaker.tells_succeed _)
      exact succeeded.trans (errand.writes_finish _ now _ _)
    · exact failed.trans (errand.writes_finish _ now _ _)
  · exact failed.trans (errand.writes_finish _ now _ _)
  · exact .refl core

theorem writes_resume (cancelled : Bool) (now : Nat) :
    Core.Writes core (errand.resume cancelled now core).1 := by
  unfold resume
  split
  · have looked := core.writes_lookup now errand.key
    unfold begin
    dsimp only
    split
    · exact looked
    · refine looked.trans ?_
      generalize (core.lookup now errand.key).1 = core
      split
      · exact errand.writes_finish core now _ _
      · have asked : Core.Writes core
            { core with breaker := (core.breaker.acquire (nanosAt now)).1 } :=
          .tells rfl (core.breaker.tells_acquire _)
        split
        · exact asked.trans (errand.writes_finish _ now _ _)
        · have called : ∀ calls, Core.Writes core
              { core with breaker := (core.breaker.acquire (nanosAt now)).1, calls := calls } :=
            fun _ => .tells rfl (core.breaker.tells_acquire _)
          exact (called _).trans (errand.writes_proceed _ false now _ _)
  · exact errand.writes_proceed core cancelled now [] _

theorem writes_abandon (now : Nat) : Core.Writes core (errand.abandon now core) := by
  unfold abandon
  split
  · exact .refl core
  · exact writes_reportFailure core now _

end Errand

theorem writes_recount (slot : Nat) (outcomes : List (Outcome Assessment)) (core : Core) :
    Core.Writes core (recount slot outcomes core) := by
  induction outcomes generalizing slot core with
  | nil => exact .refl core
  | cons outcome rest ih =>
      cases outcome with
      | ok value => exact ih (slot + 1) core
      | error failure => exact (core.writes_recordFailure _ failure).trans (ih (slot + 1) _)

/-! ## Events -/

section Events

variable (engine : Engine)

theorem writes_concludeRound (number : Nat) (round : Round)
    (outcomes : List (Outcome Assessment)) :
    Core.Writes engine.core (engine.concludeRound number round outcomes).core :=
  (writes_recount _ _ engine.core).trans (.enters _ (.batch _ _))

theorem writes_conclude (caller : Nat) :
    Core.Writes engine.core (engine.conclude caller).core := by
  rcases engine.conclude_cases caller with
    ⟨batch, _, number, round, _, _, _, concludeEq, _⟩ | ⟨_, _, same | emptied⟩
  · rw [concludeEq]
    exact engine.writes_concludeRound number round batch.outcomes
  · rw [same]
    exact .refl _
  · rw [emptied]
    exact .of_eq rfl rfl

/-- The pool goes about its affairs. -/
theorem writes_of_calm {floor : Floor Core (Errand .assess) Assessment} {next : Engine}
    (calm : Floor.Calm (fun _ => True) floor next.floor) : Core.Writes floor.shared next.core := by
  have same : next.core = floor.shared := calm.shared
  rw [same]
  exact .refl _

theorem writes_workerTurn (index : Nat) :
    Core.Writes engine.core (engine.after (.turn (.worker index))).core := by
  let resting := engine.unready (.worker index)
  change Core.Writes resting.floor.shared (resting.floor.work index).shared
  rcases resting.floor.work_cases index with
    ⟨_, calm, _⟩ | ⟨_, job, _, abandons⟩ | ⟨_, job, _, _, _, _, resumes⟩
  · rw [(calm fun _ => True).shared]
    exact .refl _
  · rw [abandons.shared]
    exact job.task.writes_abandon _ _
  · rw [resumes.shared]
    exact job.task.writes_resume _ false _

theorem writes_turn (actor : Actor) :
    Core.Writes engine.core (engine.after (.turn actor)).core := by
  cases actor with
  | guest number =>
      have afterEq : engine.after (.turn (.guest number)) =
          (engine.unready (.guest number)).guestTurn number := rfl
      rw [afterEq, guestTurn]
      split
      · rw [runGuest_core]
        exact Errand.writes_resume _ _ _ _
      · exact .refl _
  | worker index => exact engine.writes_workerTurn index
  | caller caller =>
      let attended : Engine := (engine.unready (.caller caller)).onFloor (·.attend caller)
      have calm : Floor.Calm (fun _ => True) engine.floor attended.floor :=
        (engine.calm_unready (.caller caller)).trans (Floor.calm_attend _ (only_true _) caller)
      exact (writes_of_calm calm).trans (attended.writes_conclude caller)
  | dispatcher =>
      have calm : Floor.Calm (fun _ => True) engine.floor (engine.after (.turn .dispatcher)).floor :=
        (engine.calm_unready .dispatcher).trans (Floor.calm_dispatch _)
      exact writes_of_calm calm
  | timer number =>
      obtain ⟨change, afterEq⟩ := engine.after_timer number
      rw [afterEq]
      exact .refl _

/-- Every event but a reset of the metrics writes to the collector and the breaker in the same
few ways. -/
theorem writes_after {event : Event} (goesOn : event.resets = false) :
    Core.Writes engine.core (engine.after event).core := by
  cases event with
  | ask operation scope request =>
      have core : (engine.after (.ask operation scope request)).core =
          (({ request := request } : Errand operation).resume (engine.isCancelled scope)
            engine.now engine.core).1 := runGuest_core _ _ _ _
      rw [core]
      exact Errand.writes_resume _ _ _ _
  | askBatch outer requests =>
      have afterEq : engine.after (.askBatch outer requests) = (engine.askBatch outer requests).1 :=
        rfl
      rw [afterEq, askBatch_eq]
      split
      · exact .refl _
      · exact (writes_of_calm (engine.calm_handed outer requests)).trans
          ((engine.handed outer requests).writes_conclude _)
  | shutdown limit =>
      have afterEq : engine.after (.shutdown limit) = (engine.shutdown limit).1 := rfl
      rw [afterEq, shutdown]
      split
      · exact .refl _
      · have calm : Floor.Calm (fun _ => True) engine.floor (engine.closing limit).floor :=
          engine.floor.calm_shutdown limit
        exact (writes_of_calm calm).trans ((engine.closing limit).writes_conclude _)
  | resetBreaker => exact .tells rfl engine.core.breaker.tells_reset
  | resetMetrics => cases goesOn
  | openScope | openChild | cancel | plan | pass => exact .of_eq rfl rfl
  | turn actor => exact engine.writes_turn actor

theorem Event.eq_resetMetrics {event : Event} (resets : event.resets = true) :
    event = .resetMetrics := by
  cases event with
  | resetMetrics => rfl
  | _ => cases resets

/-- Every event leaves the breaker where it is or has it announce where it moves. -/
theorem tells_after (event : Event) :
    Breaker.Tells engine.core.breaker (engine.after event).core.breaker := by
  cases resets : event.resets with
  | true =>
      obtain rfl := Event.eq_resetMetrics resets
      exact .refl _
  | false => exact (engine.writes_after resets).tells_breaker

/-- A breaker that has announced nothing had announced nothing before. -/
theorem silent_of_run (events : List Event)
    (silent : (engine.run events).core.breaker.announced = none) :
    engine.core.breaker.announced = none := by
  induction events generalizing engine with
  | nil => exact silent
  | cons event rest ih => exact ((engine.tells_after event).of_silent (ih _ silent)).1

end Events

/-! ## Runs -/

/-- The snapshots at the ends of all periods of a run: one before every reset of the metrics,
and one when the run is over. -/
def periods : List Event → Engine → List Snapshot
  | [], engine => engine.snapshot?.toList
  | event :: rest, engine =>
      (if event.resets then engine.snapshot?.toList else []) ++ periods rest (engine.after event)

/-- There is a collector, whose ledger is the sum over the past periods and the present one,
and what the breaker announced is true. -/
structure Exporting (past : List Snapshot) (collector : Collector) (engine : Engine) : Prop where
  found : engine.core.collector = some collector
  mirrors : Mirrors past collector
  announced : engine.core.breaker.Announced

namespace Exporting

variable {past : List Snapshot} {collector : Collector} {engine : Engine}

theorem make {settings : Config.Settings}
    (enabled : settings.observability.metricsEnabled = true) (service : Service) :
    Exporting [] {} (make settings service) where
  found := by
    change (if settings.observability.metricsEnabled = true then _ else _) = _
    rw [if_pos enabled]
  mirrors := .make
  announced := .make _ _ _

theorem snapshot?_eq (exporting : Exporting past collector engine) :
    engine.snapshot?.toList = [collector.snapshot (nanosAt engine.now)] := by
  rw [snapshot?, exporting.found]
  rfl

/-- Every event ends the present period or goes on with it. -/
theorem after (exporting : Exporting past collector engine) (event : Event) :
    ∃ next, Exporting (past ++ if event.resets then engine.snapshot?.toList else []) next
      (engine.after event) := by
  have announced := exporting.announced.tells (engine.tells_after event)
  cases resets : event.resets with
  | true =>
      obtain rfl := Event.eq_resetMetrics resets
      refine ⟨collector.reset (nanosAt engine.now), congrArg (Option.map _) exporting.found, ?_,
        announced⟩
      rw [if_pos rfl, exporting.snapshot?_eq]
      exact exporting.mirrors.reset _
  | false =>
      obtain ⟨next, found, mirrors⟩ :=
        (engine.writes_after resets).mirrors exporting.found exporting.mirrors
      rw [if_neg Bool.false_ne_true, List.append_nil]
      exact ⟨next, found, mirrors, announced⟩

/-- The periods of a run are those that have ended and the present one. -/
theorem run (exporting : Exporting past collector engine) (events : List Event) :
    ∃ ended next, Exporting ended next (engine.run events) ∧
      past ++ engine.periods events =
        ended ++ [next.snapshot (nanosAt (engine.run events).now)] := by
  -- A reset moves the present period to those that have ended, so these are generalised.
  induction events generalizing past collector engine with
  | nil =>
      refine ⟨past, collector, exporting, ?_⟩
      rw [periods, exporting.snapshot?_eq]
      rfl
  | cons event rest ih =>
      obtain ⟨middle, started⟩ := exporting.after event
      obtain ⟨ended, next, exported, periodsEq⟩ := ih started
      refine ⟨ended, next, exported, ?_⟩
      rw [periods, ← List.append_assoc]
      exact periodsEq

/-- The series of an engine. -/
theorem exports (exporting : Exporting past collector engine) :
    Exposition.Exports collector.ledger engine.exposition := by
  have ledger : (engine.core.collector.map (·.ledger)).getD {} = collector.ledger := by
    rw [exporting.found]
    rfl
  apply Exposition.exports engine.floor.reasons
  · change (((Exposition.ofLedger _).counters ++ []) ++ []) ++ _ = _
    rw [ledger, List.append_nil, List.append_nil]
  · change (((Exposition.ofLedger _).histograms ++ []) ++ []) ++ [] = _
    rw [ledger, List.append_nil, List.append_nil, List.append_nil]

end Exporting

/-- The gauge of the breaker shows what it announced last. -/
theorem lookup_circuit (engine : Engine) :
    engine.exposition.gauges.lookup "risk_engine_circuit_state" =
      engine.core.breaker.announced.map Exposition.circuitValue := by
  change ((((Exposition.ofLedger _).gauges ++ (Exposition.ofBreaker engine.core.breaker).gauges) ++
    (Exposition.ofCacheSize engine.core.cache.announced).gauges) ++
      (Exposition.ofRejections _).gauges).lookup _ = _
  have foreign : (Exposition.ofCacheSize engine.core.cache.announced).gauges.lookup
      "risk_engine_circuit_state" = none := by
    cases engine.core.cache.announced <;> rfl
  have own : (Exposition.ofBreaker engine.core.breaker).gauges.lookup
      "risk_engine_circuit_state" =
        engine.core.breaker.announced.map Exposition.circuitValue := by
    unfold Exposition.ofBreaker
    cases engine.core.breaker.announced <;> rfl
  simp [List.lookup_append, foreign, own, Exposition.ofLedger, Exposition.ofRejections]

/-- What the exported series of an engine say after a run. -/
structure ExportLaw (start : Engine) (events : List Event) : Prop where
  /-- The counters and the histograms are the sums of the snapshots over all periods between
  resets. -/
  mirror : MirrorLaw (start.periods events) (start.run events).exposition
  /-- The gauge of the breaker, if there is one, shows its position. -/
  circuit : ∀ value, (start.run events).exposition.gauges.lookup "risk_engine_circuit_state" =
    some value → value = Exposition.circuitValue (start.run events).core.breaker.circuit
  /-- Without a gauge the breaker has been closed all the time. -/
  closed : (start.run events).exposition.gauges.lookup "risk_engine_circuit_state" = none →
    ∀ first second, events = first ++ second →
      (start.run first).core.breaker.circuit = .closed

/-- In every run of an engine with metrics, the exported series mirror its state. -/
theorem exports_mirror_state {settings : Config.Settings}
    (enabled : settings.observability.metricsEnabled = true) (service : Service)
    (events : List Event) : ExportLaw (make settings service) events := by
  have start := Exporting.make enabled service
  obtain ⟨ended, next, exporting, periodsEq⟩ := start.run events
  rw [List.nil_append] at periodsEq
  constructor
  · rw [periodsEq]
    exact exporting.mirrors.law _ exporting.exports
  · intro value found
    rw [lookup_circuit] at found
    obtain ⟨circuit, announced, rfl⟩ := Option.map_eq_some_iff.mp found
    rw [exporting.announced.shown circuit announced]
  · intro absent first second split
    rw [lookup_circuit, Option.map_eq_none_iff] at absent
    rw [split, run_append] at absent
    obtain ⟨_, _, exportingFirst, _⟩ := start.run first
    exact exportingFirst.announced.silent (silent_of_run _ second absent)

/-- A business is assessed twice, and the metrics start over.  Then a prediction fails, and a
batch has one item in the cache and one that is rejected. -/
def restarted : List Event :=
  [.openScope, .ask .assess 0 writings.1, .ask .assess 0 writings.2, .resetMetrics,
    .ask (.predict 3) 0 writings.1,
    .askBatch 0 [writings.1, { writings.1 with businessName := "Other" }], .turn .dispatcher,
    .turn (.worker 0), .turn (.worker 1), .turn (.caller 0)]

/-- A service whose second reply is a failure. -/
def failingSecond : Service :=
  Script.service { turns := [none, some { failure := some (.modelUnavailable "down") }] }

/-- Settings with which one failure opens the breaker. -/
def brittle : Config.Settings := { circuitBreaker := { failureThreshold := 1 } }

theorem exports_mirror_state_restarted :
    ((make brittle failingSecond).periods restarted).map (fun snapshot =>
        (snapshot.successfulRequests, snapshot.failedRequests, snapshot.cacheHits,
          snapshot.cacheMisses, snapshot.batchItems)) = [(1, 0, 1, 1, 0), (0, 2, 1, 2, 2)] ∧
      ((make brittle failingSecond).run restarted).core.breaker.circuit = .opened ∧
      ExportLaw (make brittle failingSecond) restarted :=
  ⟨by decide +kernel, by decide +kernel, exports_mirror_state rfl failingSecond restarted⟩

end RiskGate.Engine
