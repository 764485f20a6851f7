import RiskGate.Engine
import RiskGate.Report
import RiskGate.Simulation.Scoring
import RiskGate.Simulation.Traffic

/-!
# Simulations

A simulation sends single requests to an engine, none of which waits for the
answer to another, and when all are answered one batch.  Each request takes its
first turn, up to its call of the service, before the next one is sent.  Every
tenth request is for a forecast twelve months ahead.  The businesses of the
batch are none of those that the single requests drew from.  At the end the
engine reports on all its parts.
-/

namespace RiskGate.Simulation

open Json (Value)
open Schedule (Clockwork)
open Engine (Operation Service)

/-- What a simulation can be told. -/
structure Options where
  /-- Number of single requests. -/
  requests : Nat := 200
  /-- Number of businesses that single requests draw from. -/
  businesses : Nat := 50
  batchSize : Nat := 20
  /-- Share of the calls that fail. -/
  failureRate : Float := 0.05
  /-- How long the service takes, in milliseconds. -/
  latency : Nat := 20
deriving Inhabited

/-- The made-up service, which is out of order when all its calls fail. -/
def service (options : Options) : Service where
  reply _ operation model request :=
    let outOfOrder : Bool := 1.0 ≤ options.failureRate
    { latency := options.latency
      outcome :=
        match operation with
        | .assess => assess outOfOrder model request
        | .predict horizonMonths => predict outOfOrder model request horizonMonths }

/-- The operation of the single request with a number. -/
def operation (index : Nat) : Operation :=
  if index % 10 = 0 then .predict 12 else .assess

/-- Send the single requests, each of which takes its first turn before the next
one is sent. -/
def sendSingles (options : Options) (scope : Nat) (engine : Engine) : Engine :=
  (List.range options.requests).foldl
    (fun engine index =>
      (engine.ask (operation index) scope (business (index % max options.businesses 1))).1)
    engine

/-- The guest was answered. -/
def isAnswered (guest : Engine.Guest) : Bool :=
  match guest.state with
  | .answered .. => true
  | .running _ => false

/-- The guest was answered with a result. -/
def succeeded (guest : Engine.Guest) : Bool :=
  match guest.state with
  | .answered (.ok _) _ => true
  | _ => false

/-- The requests of the batch. -/
def batchRequests (options : Options) : List Request :=
  (List.range options.batchSize).map fun index =>
    business (max options.businesses 1 + index)

/-- Run a simulation.  Gives the engine at the end and the answer to the
batch. -/
def run (settings : Config.Settings) (options : Options) :
    Engine × Option (Outcome BatchOutcome) :=
  let engine := Engine.make settings (service options)
  let (agenda, scope) := engine.floor.agenda.openScope
  let sent := sendSingles options scope (engine.onAgenda fun _ => agenda)
  let answered := Clockwork.await (·.guests.all isAnswered) (Clockwork.settle sent)
  let (asked, number) := answered.askBatch scope (batchRequests options)
  let done := Clockwork.await (fun engine => (engine.batchAnswer? number).isSome)
    (Clockwork.settle asked)
  (done, (done.batchAnswer? number).map Prod.fst)

/-- What a report says of the batch. -/
def batchSummary : Outcome BatchOutcome → Value
  | .ok outcome =>
      .object [
        ("error", orNull (fun failure => .string failure.message) outcome.failure?),
        ("failed", .integer outcome.failureCount),
        ("items", .integer outcome.size),
        ("succeeded", .integer outcome.successCount)]
  | .error failure => .object [("error", .string failure.message)]

/-- The report on a simulation. -/
def report (settings : Config.Settings) (options : Options) : Value :=
  let (engine, batch) := run settings options
  .object [
    ("batch", orNull batchSummary batch),
    ("cache", engine.core.cache.stats.toJson),
    ("circuit_breaker", engine.core.breaker.toJson (Engine.nanosAt engine.now)),
    ("health", orNull Metrics.HealthReport.toJson engine.health?),
    ("metrics", orNull Metrics.Snapshot.toJson engine.snapshot?),
    ("pool", engine.floor.toJson),
    ("single_request_failures", .integer (engine.guests.countP (!succeeded ·)))]

end RiskGate.Simulation
