import RiskGate.Proofs.Engine.Log
import RiskGate.Proofs.Pool.Views
import RiskGate.Proofs.Schedule.Views

/-!
# Metrics never influence requests

An engine writes to its collector and never reads it, except to report.  So an engine can be
seen without its metrics: without the collector, and without the settings that only the metrics
and the health report look at.  Everything that happens to an engine commutes with this view.

Two engines whose settings differ in nothing else look the same when they are new, and so they
look the same whatever happens to both of them.
-/

namespace RiskGate

open Schedule (Actor Agenda Clockwork)

/-- The settings without those that only the metrics and the health report look at. -/
def Config.Settings.unmetered (settings : Config.Settings) : Config.Settings :=
  { settings with
    observability := { settings.observability with metricsEnabled := false }
    thresholds := {} }

namespace Engine

open Pool (Floor Progress Respects)

/-! ## What errands share -/

namespace Core

/-- What errands share, without the metrics. -/
def unmetered (core : Core) : Core :=
  { core with settings := core.settings.unmetered, collector := none }

variable (core : Core)

theorem unmetered_lookup (now : Nat) (key : String) :
    core.unmetered.lookup now key = (core.lookup now key).map unmetered id := by
  simp only [lookup, apply_ite (Prod.map unmetered id)]
  rfl

theorem unmetered_recordOnce (slot : Option Nat)
    (change : Metrics.Collector → Metrics.Collector) :
    core.unmetered.recordOnce slot change = (core.recordOnce slot change).unmetered := by
  have free : core.unmetered.isFree slot = core.isFree slot := rfl
  cases isFree : core.isFree slot with
  | false => rw [recordOnce_of_taken _ (free.trans isFree), recordOnce_of_taken _ isFree]
  | true =>
      rw [recordOnce_of_free _ (free.trans isFree), recordOnce_of_free _ isFree]
      rfl

end Core

/-! ## Errands -/

namespace Errand

variable {operation : Operation} (errand : Errand operation) (core : Core)

theorem unmetered_finish (now begunAt : Nat) (outcome : RiskGate.Outcome operation.Result) :
    errand.finish now begunAt outcome core.unmetered =
      (errand.finish now begunAt outcome core).map Core.unmetered id := by
  cases outcome with
  | ok value =>
      let stored : Core :=
        { core with
          cache := core.cache.set (nanosAt now) errand.key (operation.toAnswer value) }
      exact Prod.ext (stored.unmetered_recordOnce errand.slot _) rfl
  | error failure => exact Prod.ext (core.unmetered_recordOnce errand.slot _) rfl

theorem unmetered_proceed (cancelled : Bool) (now : Nat) (alarms : List Nat)
    (flight : Flight operation.Result) :
    errand.proceed cancelled now alarms flight core.unmetered =
      (errand.proceed cancelled now alarms flight core).map Core.unmetered id := by
  have failed := errand.unmetered_finish (reportFailure now flight core) now flight.begunAt
  unfold proceed
  split
  · exact failed _
  · split
    · exact errand.unmetered_finish
        { core with breaker := core.breaker.succeed flight.admission } now flight.begunAt _
    · exact failed _
  · exact failed _
  · rfl

theorem unmetered_launch (now admission : Nat) :
    errand.launch now admission core.unmetered =
      (errand.launch now admission core).map Core.unmetered id := by
  let call : Call :=
    ⟨now, operation, core.settings.execution.modelSelector, errand.request.businessName⟩
  exact errand.unmetered_proceed { core with calls := call :: core.calls } false now _ _

theorem unmetered_begin (cancelled : Bool) (now : Nat) :
    errand.begin cancelled now core.unmetered =
      (errand.begin cancelled now core).map Core.unmetered id := by
  unfold begin
  rw [core.unmetered_lookup]
  generalize core.lookup now errand.key = looked
  obtain ⟨looked, found⟩ := looked
  simp only [Prod.map_fst, Prod.map_snd, id_eq]
  split
  · rfl
  · split
    · exact errand.unmetered_finish looked now now _
    · have asked : looked.unmetered.breaker = looked.breaker := rfl
      rw [asked]
      split
      · exact errand.unmetered_finish
          { looked with breaker := (looked.breaker.acquire (nanosAt now)).1 } now now _
      · exact errand.unmetered_launch
          { looked with breaker := (looked.breaker.acquire (nanosAt now)).1 } now _

theorem unmetered_resume (cancelled : Bool) (now : Nat) :
    errand.resume cancelled now core.unmetered =
      (errand.resume cancelled now core).map Core.unmetered id := by
  unfold resume
  split
  · exact errand.unmetered_begin core cancelled now
  · exact errand.unmetered_proceed core cancelled now [] _

theorem unmetered_abandon (now : Nat) :
    errand.abandon now core.unmetered = (errand.abandon now core).unmetered := by
  unfold abandon
  cases errand.flight <;> rfl

end Errand

/-- The jobs of the pool do not notice whether there are metrics. -/
theorem respects_unmetered : Respects (Errand .assess) Assessment Core.unmetered where
  resume _ now errand core := errand.unmetered_resume core false now
  abandon _ now errand core := Prod.ext (errand.unmetered_abandon core now) rfl

theorem unmetered_recount (slot : Nat) (outcomes : List (Outcome Assessment)) (core : Core) :
    recount slot outcomes core.unmetered = (recount slot outcomes core).unmetered := by
  induction outcomes generalizing slot core with
  | nil => rfl
  | cons outcome rest ih =>
      cases outcome with
      | ok value => exact ih (slot + 1) core
      | error failure =>
          have recorded : core.unmetered.recordFailure (some slot) failure =
              (core.recordFailure (some slot) failure).unmetered :=
            core.unmetered_recordOnce _ _
          rw [recount, recount, recorded, ih]

/-! ## Engines -/

/-- The engine without its metrics. -/
def unmetered (engine : Engine) : Engine :=
  { engine with floor := engine.floor.through Core.unmetered }

section Events

variable (engine : Engine)

theorem unmetered_runGuest (number scope : Nat) {operation : Operation}
    (errand : Errand operation) :
    engine.unmetered.runGuest number scope errand =
      (engine.runGuest number scope errand).unmetered := by
  have resumed : errand.resume (engine.unmetered.isCancelled scope) engine.unmetered.now
      engine.unmetered.core =
        (errand.resume (engine.isCancelled scope) engine.now engine.core).map Core.unmetered id :=
    errand.unmetered_resume engine.core _ _
  unfold runGuest
  rw [resumed]
  rcases errand.resume (engine.isCancelled scope) engine.now engine.core with
    ⟨core, outcome | ⟨next, alarms⟩⟩
  · rfl
  · rfl

theorem unmetered_ask (operation : Operation) (scope : Nat) (request : Request) :
    engine.unmetered.ask operation scope request =
      (engine.ask operation scope request).map unmetered id := by
  let errand : Errand operation := { request := request }
  let entered := engine.entered operation scope request
  exact Prod.ext (entered.unmetered_runGuest engine.guests.length scope errand) rfl

theorem unmetered_guestTurn (number : Nat) :
    engine.unmetered.guestTurn number = (engine.guestTurn number).unmetered := by
  have same : engine.unmetered.guests = engine.guests := rfl
  unfold guestTurn
  rw [same]
  rcases engine.guests[number]? with _ | ⟨scope, operation, errand | ⟨outcome, instant⟩⟩
  · rfl
  · exact engine.unmetered_runGuest number scope errand
  · rfl

theorem unmetered_concludeRound (number : Nat) (round : Round)
    (outcomes : List (Outcome Assessment)) :
    engine.unmetered.concludeRound number round outcomes =
      (engine.concludeRound number round outcomes).unmetered := by
  let answered (core : Core) : Engine :=
    { (engine.onCore fun _ => core.record
        (·.recordBatch (Span.ofMillis (engine.now - round.begunAt)) round.size)).onAgenda
          (·.dismiss (.timer number)) with
      rounds := engine.rounds.set number
        (.answered (.ok ⟨engine.reported round outcomes⟩) engine.now) }
  exact congrArg answered
    (unmetered_recount round.firstSlot (engine.reported round outcomes) engine.core)

theorem unmetered_conclude (caller : Nat) :
    engine.unmetered.conclude caller = (engine.conclude caller).unmetered := by
  have callers : engine.unmetered.floor.callers = engine.floor.callers := rfl
  have rounds : engine.unmetered.roundOf? caller = engine.roundOf? caller := rfl
  have closer : engine.unmetered.closer = engine.closer := rfl
  unfold conclude
  rw [callers, rounds, closer]
  split
  · split
    · exact engine.unmetered_concludeRound _ _ _
    · rfl
  · split <;> rfl
  · rfl

theorem unmetered_timerTurn (number : Nat) :
    engine.unmetered.timerTurn number = (engine.timerTurn number).unmetered := by
  have rounds : engine.unmetered.rounds = engine.rounds := rfl
  unfold timerTurn
  rw [rounds]
  split <;> rfl

theorem unmetered_askBatch (outer : Nat) (requests : List Request) :
    engine.unmetered.askBatch outer requests =
      (engine.askBatch outer requests).map unmetered id := by
  have refusal : engine.unmetered.refusal? requests = engine.refusal? requests := rfl
  rw [askBatch_eq, askBatch_eq, refusal]
  cases engine.refusal? requests with
  | some outcome => rfl
  | none =>
      let entered (floor : Floor Core (Errand .assess) Assessment) : Engine :=
        { engine.opened outer with
          floor := floor
          rounds := engine.rounds ++ [.running (engine.begun outer requests)]
          nextSlot := engine.nextSlot + requests.length }
      have executed := (engine.opened outer).floor.through_executeBatch Core.unmetered
        engine.settings.submitTimeout (engine.begun outer requests).scope
        (errands engine.nextSlot requests)
      have handed : engine.unmetered.handed outer requests =
          (engine.handed outer requests).unmetered :=
        congrArg (fun floor => entered floor.1) executed
      dsimp only
      rw [handed, unmetered_conclude]
      rfl

theorem unmetered_shutdown (limit : Span) :
    engine.unmetered.shutdown limit = (engine.shutdown limit).map unmetered id := by
  have down : engine.unmetered.down = engine.down := rfl
  have closed : engine.unmetered.floor.shutdown limit =
      (engine.floor.shutdown limit).map (Floor.through Core.unmetered) id :=
    engine.floor.through_shutdown Core.unmetered limit
  unfold shutdown
  rw [down, closed]
  split
  · rfl
  · exact Prod.ext ((engine.closing limit).unmetered_conclude _) rfl

/-- A turn of the pool. -/
theorem unmetered_poolTurn (actor : Actor) :
    engine.unmetered.onFloor (·.turn actor) = (engine.onFloor (·.turn actor)).unmetered :=
  congrArg (fun floor => { engine with floor := floor })
    (Floor.through_turn respects_unmetered engine.floor actor)

theorem unmetered_turn (actor : Actor) :
    turn actor engine.unmetered = (turn actor engine).unmetered := by
  cases actor with
  | guest number => exact engine.unmetered_guestTurn number
  | timer number => exact engine.unmetered_timerTurn number
  | caller caller =>
      have attended := engine.unmetered_poolTurn (.caller caller)
      change (engine.unmetered.onFloor (·.turn (.caller caller))).conclude caller = _
      rw [attended]
      exact unmetered_conclude _ caller
  | worker index => exact engine.unmetered_poolTurn (.worker index)
  | dispatcher => exact engine.unmetered_poolTurn .dispatcher

theorem unmetered_after (event : Event) :
    engine.unmetered.after event = (engine.after event).unmetered := by
  cases event with
  | ask operation scope request =>
      exact congrArg Prod.fst (engine.unmetered_ask operation scope request)
  | askBatch outer requests => exact congrArg Prod.fst (engine.unmetered_askBatch outer requests)
  | shutdown limit => exact congrArg Prod.fst (engine.unmetered_shutdown limit)
  | resetBreaker | resetMetrics | openScope | openChild | cancel | plan | pass => rfl
  | turn actor => exact (engine.unready actor).unmetered_turn actor

end Events

/-- The clockwork drives an engine as it drives the engine without its metrics. -/
theorem respects_clockwork : Clockwork.Respects unmetered where
  agenda _ := rfl
  withAgenda _ _ := rfl
  turn actor engine := engine.unmetered_turn actor
  elapse _ _ _ := rfl
  effort _ := rfl

/-! ## Runs -/

/-- What can be done to an engine: an event comes about, or the clockwork goes on until nobody
is ready, for some time, or, with a host or without, until a condition on the answers given so
far holds. -/
inductive Drive where
  | event (event : Event)
  | settle
  | advance (millis : Nat)
  | await (stop : List Guest → List Rounds → List (Pool.Caller (Errand .assess) Assessment) → Bool)
  | hostedAwait (host : Schedule.Actor)
      (stop : List Guest → List Rounds → List (Pool.Caller (Errand .assess) Assessment) → Bool)

/-- The engine after it was driven. -/
def driven (engine : Engine) : Drive → Engine
  | .event event => engine.after event
  | .settle => Clockwork.settle engine
  | .advance millis => Clockwork.advance millis engine
  | .await stop =>
      Clockwork.await (fun engine => stop engine.guests engine.rounds engine.floor.callers) engine
  | .hostedAwait host stop =>
      Clockwork.hostedAwait host
        (fun engine => stop engine.guests engine.rounds engine.floor.callers) engine

/-- The engine after it was driven in one way after another. -/
def drivenBy (drives : List Drive) (engine : Engine) : Engine := drives.foldl driven engine

theorem unmetered_driven (engine : Engine) (drive : Drive) :
    engine.unmetered.driven drive = (engine.driven drive).unmetered := by
  cases drive with
  | event event => exact engine.unmetered_after event
  | settle => exact respects_clockwork.settle engine
  | advance millis => exact respects_clockwork.advance millis engine
  | await stop => exact respects_clockwork.jumps respects_clockwork.jump (fun _ => rfl) _ _ engine
  | hostedAwait host stop => exact respects_clockwork.hostedAwait host (fun _ => rfl) engine

theorem unmetered_drivenBy (drives : List Drive) (engine : Engine) :
    engine.unmetered.drivenBy drives = (engine.drivenBy drives).unmetered := by
  induction drives generalizing engine with
  | nil => rfl
  | cons drive rest ih =>
      have first : engine.unmetered.drivenBy (drive :: rest) =
          (engine.unmetered.driven drive).drivenBy rest := rfl
      rw [first, unmetered_driven]
      exact ih (engine.driven drive)

/-- Two engines have given the same answers at the same instants, and have the same statistics
but for their metrics. -/
structure SameConduct (first second : Engine) : Prop where
  /-- The answers to single requests. -/
  guests : first.guests = second.guests
  /-- The answers to batches. -/
  rounds : first.rounds = second.rounds
  /-- The answers to shutdowns. -/
  answers : ∀ caller, first.floor.answer? caller = second.floor.answer? caller
  /-- The calls that reached the service. -/
  calls : first.core.calls = second.core.calls
  cache : first.core.cache = second.core.cache
  breaker : first.core.breaker = second.core.breaker
  /-- The pools with their callers, their statistics and the agenda, but for what the jobs
  share. -/
  pool : first.floor.through (fun _ => ()) = second.floor.through (fun _ => ())

/-- Engines that look the same without their metrics conduct themselves in the same way. -/
theorem SameConduct.of_unmetered {first second : Engine}
    (same : first.unmetered = second.unmetered) : SameConduct first second where
  guests := (congrArg Engine.guests same :)
  rounds := (congrArg Engine.rounds same :)
  answers caller := congrArg (fun engine => engine.floor.answer? caller) same
  calls := congrArg (fun engine => engine.core.calls) same
  cache := congrArg (fun engine => engine.core.cache) same
  breaker := congrArg (fun engine => engine.core.breaker) same
  pool := congrArg (fun engine => engine.floor.through fun _ => ()) same

/-- Whether an engine has metrics, and what thresholds its health report checks, has no
influence on its answers and on its other statistics, whatever happens to it. -/
theorem metrics_without_influence (settings : Config.Settings) (enabled : Bool)
    (thresholds : Config.Thresholds) (service : Service) (drives : List Drive) :
    SameConduct ((make settings service).drivenBy drives)
      ((make
        { settings with
          observability := { settings.observability with metricsEnabled := enabled }
          thresholds := thresholds } service).drivenBy drives) := by
  apply SameConduct.of_unmetered
  rw [← unmetered_drivenBy, ← unmetered_drivenBy]
  rfl

end Engine

end RiskGate
