import RiskGate.Cache.Store
import RiskGate.Config.Settings
import RiskGate.Deadline
import RiskGate.Engine.Service
import RiskGate.Breaker
import RiskGate.Fingerprint
import RiskGate.Metrics.Collector
import RiskGate.Pool.Job

/-!
# Errands

An errand answers one request.  It looks the request up in the cache; where
that fails it asks the breaker for admission and then the service, within the
request timeout, and stores what the service answers.  Whatever becomes of an
admitted call, the breaker learns its outcome once: an errand that is cancelled,
runs out of time or is given up counts as a failure there.

The outcome of an errand is recorded once.  An item of a batch has a slot that
it shares with its batch, and whoever claims the slot first records the outcome.
-/

namespace RiskGate.Engine

open Schedule (Actor waitOver)
open Pool (Progress)

/-- A call that reached the service. -/
structure Call where
  instant : Nat
  operation : Operation
  model : String
  businessName : String
deriving Repr

/-- What all errands of an engine share. -/
structure Core where
  settings : Config.Settings
  service : Service
  cache : Cache.Store Answer
  breaker : Breaker
  /-- Nothing when metrics are switched off. -/
  collector : Option Metrics.Collector
  /-- The calls that reached the service, the latest first. -/
  calls : List Call := []
  /-- The slots whose outcome was recorded. -/
  claimed : List Nat := []

/-- An instant in nanoseconds. -/
def nanosAt (now : Nat) : Nat := (Span.ofMillis now).nanos

namespace Core

/-- The shared parts of a new engine. -/
def make (settings : Config.Settings) (service : Service) : Core where
  settings := settings
  service := service
  cache :=
    if settings.cache.enabled then
      Cache.Store.make settings.cacheTtl settings.cache.maxSize settings.cleanupInterval
    else Cache.Store.none
  breaker := Breaker.ofSettings settings
  collector := if settings.observability.metricsEnabled then some {} else none

/-- Record something, unless metrics are switched off. -/
def record (change : Metrics.Collector → Metrics.Collector) (core : Core) : Core :=
  { core with collector := core.collector.map change }

/-- Look a key up, and record whether anything was found. -/
def lookup (now : Nat) (key : String) (core : Core) : Core × Option Answer :=
  let (cache, found) := core.cache.get (nanosAt now) key
  let core := { core with cache := cache }
  if found.isSome then (core.record (·.recordHit), found)
  else (core.record (·.recordMiss), found)

/-- Claim a slot: whether it was free.  Without a slot there is nothing to
share. -/
def claim (slot : Option Nat) (core : Core) : Core × Bool :=
  match slot with
  | none => (core, true)
  | some number =>
      if number ∈ core.claimed then (core, false)
      else ({ core with claimed := number :: core.claimed }, true)

/-- Record something for a slot, unless that was done before. -/
def recordOnce (slot : Option Nat) (change : Metrics.Collector → Metrics.Collector)
    (core : Core) : Core :=
  let (core, free) := core.claim slot
  if free then core.record change else core

/-- Record a failure for a slot, unless that was done before. -/
def recordFailure (slot : Option Nat) (failure : Failure) (core : Core) : Core :=
  core.recordOnce slot (·.recordError failure.kind.name)

end Core

/-- An admitted call that is under way: its admission, when it began, the reply
to come, and the instants at which the reply is there and the time is up. -/
structure Flight (α : Type) where
  admission : Nat
  begunAt : Nat
  reply : Except ServiceFailure α
  readyAt : Nat
  expiresAt : Nat

/-- A request to be answered, with the call it led to. -/
structure Errand (operation : Operation) where
  request : Request
  slot : Option Nat := none
  flight : Option (Flight operation.Result) := none

namespace Errand

variable {operation : Operation}

/-- The cache key of an errand. -/
def key (errand : Errand operation) : String :=
  match operation with
  | .assess => Fingerprint.assessment errand.request
  | .predict horizonMonths => Fingerprint.prediction errand.request horizonMonths

/-- End an errand: store a result and record the outcome. -/
def finish (now begunAt : Nat) (outcome : Outcome operation.Result) (errand : Errand operation)
    (core : Core) : Core × Progress (Errand operation) operation.Result :=
  match outcome with
  | .ok value =>
      let stored :=
        { core with
          cache := core.cache.set (nanosAt now) errand.key (operation.toAnswer value) }
      (stored.recordOnce errand.slot (·.recordRequest (Span.ofMillis (now - begunAt))),
        .finished outcome)
  | .error failure => (core.recordFailure errand.slot failure, .finished outcome)

/-- Tell the breaker that an admitted call failed or was given up. -/
def reportFailure (now : Nat) (flight : Flight operation.Result) (core : Core) : Core :=
  { core with breaker := core.breaker.fail flight.admission (nanosAt now) }

/-- Look after a call that is under way; `alarms` are set if it goes on. -/
def proceed (cancelled : Bool) (now : Nat) (alarms : List Nat) (flight : Flight operation.Result)
    (errand : Errand operation) (core : Core) :
    Core × Progress (Errand operation) operation.Result :=
  match Deadline.judge cancelled flight.readyAt flight.expiresAt now with
  | .cancelled =>
      errand.finish now flight.begunAt (.error .cancelled) (reportFailure now flight core)
  | .ready =>
      match flight.reply with
      | .ok value =>
          errand.finish now flight.begunAt (.ok value)
            { core with breaker := core.breaker.succeed flight.admission }
      | .error cause =>
          errand.finish now flight.begunAt (.error (.backend operation.name cause))
            (reportFailure now flight core)
  | .expired =>
      errand.finish now flight.begunAt
        (.error (.deadlineExceeded core.settings.requestTimeout)) (reportFailure now flight core)
  | .pending => (core, .suspended { errand with flight := some flight } alarms)

/-- Ask the service on behalf of an admitted call. -/
def launch (now admission : Nat) (errand : Errand operation) (core : Core) :
    Core × Progress (Errand operation) operation.Result :=
  let model := core.settings.execution.modelSelector
  let reply := core.service.reply core.calls.length operation model errand.request
  let flight : Flight operation.Result :=
    { admission := admission
      begunAt := now
      reply := reply.outcome
      readyAt := now + reply.latency
      expiresAt := waitOver now core.settings.requestTimeout }
  errand.proceed false now [flight.readyAt, flight.expiresAt] flight
    { core with calls := ⟨now, operation, model, errand.request.businessName⟩ :: core.calls }

/-- Begin an errand. -/
def begin (cancelled : Bool) (now : Nat) (errand : Errand operation) (core : Core) :
    Core × Progress (Errand operation) operation.Result :=
  let (core, found) := core.lookup now errand.key
  match found.bind operation.ofAnswer with
  | some value => (core, .finished (.ok value))
  | none =>
      if cancelled then errand.finish now now (.error .cancelled) core
      else
        let (breaker, admission) := core.breaker.acquire (nanosAt now)
        let core := { core with breaker := breaker }
        match admission with
        | none => errand.finish now now (.error .circuitOpen) core
        | some admission => errand.launch now admission core

/-- Begin an errand, or go on with it. -/
def resume (cancelled : Bool) (now : Nat) (errand : Errand operation) (core : Core) :
    Core × Progress (Errand operation) operation.Result :=
  match errand.flight with
  | none => errand.begin cancelled now core
  | some flight => errand.proceed cancelled now [] flight core

/-- Give an errand up without recording an outcome. -/
def abandon (now : Nat) (errand : Errand operation) (core : Core) : Core :=
  match errand.flight with
  | none => core
  | some flight => reportFailure now flight core

end Errand

instance : Pool.Trade Core (Errand .assess) Assessment where
  resume _ now errand core := errand.resume false now core
  abandon _ now errand core := (errand.abandon now core, [])
  elapse start stop core := { core with cache := core.cache.elapse start stop }

end RiskGate.Engine
