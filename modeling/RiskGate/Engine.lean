import RiskGate.BatchOutcome
import RiskGate.Engine.Errand
import RiskGate.Metrics.Exposition
import RiskGate.Metrics.Health
import RiskGate.Pool.Calls

/-!
# The engine

An engine answers requests one by one or in batches.  A single request is
answered by a guest, outside the pool; the items of a batch are jobs of the
pool.

A batch has a scope of its own under the scope of its caller, and a timer that
cancels it when the batch has taken too long.  When the pool has answered, the
items that count as cancelled without the caller's doing have missed the
deadline, and failures that no errand recorded are recorded for the batch.
-/

namespace RiskGate

open Schedule (Actor Agenda Clockwork)
open Engine (Core Errand Operation Service nanosAt)

/-- How far a guest is. -/
inductive Engine.Errands (operation : Operation) where
  | running (errand : Errand operation)
  | answered (outcome : Outcome operation.Result) (instant : Nat)

/-- A caller of a single request. -/
structure Engine.Guest where
  scope : Nat
  operation : Operation
  state : Engine.Errands operation

/-- A batch that is under way. -/
structure Engine.Round where
  /-- Its number among the pool's callers. -/
  caller : Nat
  /-- The scope of whoever asked for the batch. -/
  outer : Nat
  /-- The scope of the batch itself. -/
  scope : Nat
  /-- The slot of its first item. -/
  firstSlot : Nat
  size : Nat
  begunAt : Nat
  /-- The instant at which the batch has taken too long. -/
  due : Nat

/-- How far a batch is. -/
inductive Engine.Rounds where
  | running (round : Engine.Round)
  | answered (outcome : Outcome BatchOutcome) (instant : Nat)

/-- An engine: its pool, whose jobs share the other parts, its guests and its
batches. -/
structure Engine where
  floor : Pool.Floor Core (Errand .assess) Assessment
  guests : List Engine.Guest := []
  rounds : List Engine.Rounds := []
  /-- The next free slot. -/
  nextSlot : Nat := 0
  /-- Shutdown has begun. -/
  down : Bool := false
  /-- The pool's caller that waits for the pool to stop. -/
  closer : Option Nat := none

namespace Engine

/-- An engine with the given settings before a service. -/
def make (settings : Config.Settings) (service : Service) : Engine where
  floor :=
    Pool.Floor.make settings.execution.maxConcurrentRequests settings.execution.queueCapacity
      (Core.make settings service)

def core (engine : Engine) : Core := engine.floor.shared

def now (engine : Engine) : Nat := engine.floor.now

def settings (engine : Engine) : Config.Settings := engine.core.settings

def onFloor (change : Pool.Floor Core (Errand .assess) Assessment →
      Pool.Floor Core (Errand .assess) Assessment) (engine : Engine) : Engine :=
  { engine with floor := change engine.floor }

def onAgenda (change : Agenda → Agenda) (engine : Engine) : Engine :=
  engine.onFloor (·.onAgenda change)

def onCore (change : Core → Core) (engine : Engine) : Engine :=
  engine.onFloor fun floor => { floor with shared := change floor.shared }

def isCancelled (scope : Nat) (engine : Engine) : Bool :=
  engine.floor.isCancelled scope

/-! ## Single requests -/

/-- Note how far a guest is. -/
def setGuest (number : Nat) (guest : Guest) (engine : Engine) : Engine :=
  { engine with guests := engine.guests.set number guest }

/-- Let a guest's errand go on.  A guest that is not answered yet is woken by
its alarms and by its scope. -/
def runGuest (number scope : Nat) {operation : Operation} (errand : Errand operation)
    (engine : Engine) : Engine :=
  let actor := Actor.guest number
  let (core, progress) := errand.resume (engine.isCancelled scope) engine.now engine.core
  let engine := engine.onCore fun _ => core
  match progress with
  | .finished outcome =>
      (engine.onAgenda (·.release actor)).setGuest number
        ⟨scope, operation, .answered outcome engine.now⟩
  | .suspended errand alarms =>
      (engine.onAgenda fun agenda =>
          alarms.foldl (fun agenda due => agenda.setAlarm due actor) agenda).setGuest number
        ⟨scope, operation, .running errand⟩

/-- Ask for one request to be answered.  Gives the number of the guest. -/
def ask (operation : Operation) (scope : Nat) (request : Request) (engine : Engine) :
    Engine × Nat :=
  let number := engine.guests.length
  let errand : Errand operation := { request := request }
  let guest : Guest := ⟨scope, operation, .running errand⟩
  let entered : Engine :=
    { engine.onAgenda (·.watch scope (.guest number)) with guests := engine.guests ++ [guest] }
  (entered.runGuest number scope errand, number)

/-- A guest's turn. -/
def guestTurn (number : Nat) (engine : Engine) : Engine :=
  match engine.guests[number]? with
  | some ⟨scope, _, .running errand⟩ => engine.runGuest number scope errand
  | _ => engine

/-! ## Batches -/

/-- A cancellation that only the deadline of the batch explains. -/
def relabel (missed : Bool) (limit : Span) : Outcome Assessment → Outcome Assessment
  | .error .cancelled => if missed then .error (.deadlineExceeded limit) else .error .cancelled
  | outcome => outcome

/-- Record the failures of items that no errand recorded. -/
def recount (slot : Nat) : List (Outcome Assessment) → Core → Core
  | [], core => core
  | .ok _ :: rest, core => recount (slot + 1) rest core
  | .error failure :: rest, core =>
      recount (slot + 1) rest (core.recordFailure (some slot) failure)

/-- Answer a batch whose outcomes the pool has joined. -/
def concludeRound (number : Nat) (round : Round) (outcomes : List (Outcome Assessment))
    (engine : Engine) : Engine :=
  let missed := engine.isCancelled round.scope && !engine.isCancelled round.outer
  let items := outcomes.map (relabel missed engine.settings.batchTimeout)
  let recorded := engine.onCore fun core =>
    (recount round.firstSlot items core).record
      (·.recordBatch (Span.ofMillis (engine.now - round.begunAt)) round.size)
  { recorded.onAgenda (·.dismiss (.timer number)) with
    rounds := engine.rounds.set number (.answered (.ok ⟨items⟩) engine.now) }

/-- The running batch of one of the pool's callers, with its number. -/
def roundOf? (caller : Nat) (engine : Engine) : Option (Nat × Round) :=
  engine.rounds.zipIdx.findSome? fun
    | (.running round, number) => if round.caller = caller then some (number, round) else none
    | (.answered .., _) => none

/-- See whether the pool has answered one of its callers: a batch is answered
then, and the end of a shutdown clears and closes the cache. -/
def conclude (caller : Nat) (engine : Engine) : Engine :=
  match engine.floor.callers[caller]? with
  | some (.batched batch _) =>
      match engine.roundOf? caller with
      | some (number, round) => engine.concludeRound number round batch.outcomes
      | none => engine
  | some (.closed ..) =>
      if engine.closer = some caller then
        { engine.onCore fun core => { core with cache := core.cache.clear.close } with
          closer := none }
      else engine
  | _ => engine

/-- A timer's turn: cancel the batch if it has taken too long, or set the
alarm. -/
def timerTurn (number : Nat) (engine : Engine) : Engine :=
  match engine.rounds[number]? with
  | some (.running round) =>
      engine.onAgenda fun agenda =>
        if round.due ≤ agenda.now then agenda.cancel round.scope
        else agenda.setAlarm round.due (.timer number)
  | _ => engine

/-- Answer a batch without running it. -/
def answerRound (outcome : Outcome BatchOutcome) (engine : Engine) : Engine × Nat :=
  ({ engine with rounds := engine.rounds ++ [.answered outcome engine.now] },
    engine.rounds.length)

/-- The errands of the items of a batch. -/
def errands (firstSlot : Nat) (requests : List Request) : List (Errand .assess) :=
  requests.zipIdx.map fun (request, index) =>
    { request := request, slot := some (firstSlot + index) }

/-- Ask for requests to be assessed as a batch.  A batch with more items than
there are workers is refused whole.  Gives the number of the batch. -/
def askBatch (outer : Nat) (requests : List Request) (engine : Engine) : Engine × Nat :=
  let limit := engine.floor.workers
  if limit < requests.length then
    engine.answerRound (.error (.batchTooLarge requests.length limit))
  else if requests.isEmpty then engine.answerRound (.ok ⟨[]⟩)
  else
    let number := engine.rounds.length
    let (agenda, scope) := engine.floor.agenda.openChild outer
    let engine := engine.onAgenda fun _ => agenda.wake (.timer number)
    let round : Round :=
      { caller := engine.floor.callers.length
        outer := outer
        scope := scope
        firstSlot := engine.nextSlot
        size := requests.length
        begunAt := engine.now
        due := agenda.dueAfter engine.settings.batchTimeout }
    let (floor, caller) :=
      engine.floor.executeBatch engine.settings.submitTimeout scope
        (errands engine.nextSlot requests)
    let entered :=
      { engine with
        floor := floor
        rounds := engine.rounds ++ [Rounds.running round]
        nextSlot := engine.nextSlot + requests.length }
    (entered.conclude caller, number)

/-! ## Shutdown and control -/

/-- Shut the engine down.  Only the first shutdown has anything to do.  Gives
the number of the pool's caller that has the answer. -/
def shutdown (limit : Span) (engine : Engine) : Engine × Nat :=
  if engine.down then
    let (floor, caller) := engine.floor.enter (.closed (.ok ()) engine.now)
    ({ engine with floor := floor }, caller)
  else
    let (floor, caller) := engine.floor.shutdown limit
    ({ engine with floor := floor, down := true, closer := some caller }.conclude caller, caller)

/-- Close the breaker by hand. -/
def resetBreaker (engine : Engine) : Engine :=
  engine.onCore fun core => { core with breaker := core.breaker.reset }

/-- Start the metrics over. -/
def resetMetrics (engine : Engine) : Engine :=
  engine.onCore (·.record (·.reset (nanosAt engine.now)))

/-! ## Views -/

/-- The metrics now, unless they are switched off. -/
def snapshot? (engine : Engine) : Option Metrics.Snapshot :=
  engine.core.collector.map (·.snapshot (nanosAt engine.now))

/-- The health now, unless metrics are switched off. -/
def health? (engine : Engine) : Option Metrics.HealthReport :=
  engine.snapshot?.map fun snapshot =>
    Metrics.checkThresholds snapshot engine.settings.thresholds

/-- All exported series. -/
def exposition (engine : Engine) : Metrics.Exposition :=
  Metrics.Exposition.ofLedger ((engine.core.collector.map (·.ledger)).getD {}) ++
    Metrics.Exposition.ofBreaker engine.core.breaker ++
    Metrics.Exposition.ofCacheSize engine.core.cache.announced ++
    Metrics.Exposition.ofRejections engine.floor.reasons

/-- The answer to a batch, once there is one. -/
def batchAnswer? (number : Nat) (engine : Engine) : Option (Outcome BatchOutcome × Nat) :=
  match engine.rounds[number]? with
  | some (.answered outcome instant) => some (outcome, instant)
  | _ => none

/-! ## Turns -/

/-- The turn of an actor. -/
def turn : Actor → Engine → Engine
  | .guest number, engine => engine.guestTurn number
  | .timer number, engine => engine.timerTurn number
  | .caller caller, engine => (engine.onFloor (·.turn (.caller caller))).conclude caller
  | actor, engine => engine.onFloor (·.turn actor)

/-- Turns that a guest may still take. -/
def Guest.effort (guest : Guest) : Nat :=
  match guest.state with
  | .running _ => 2
  | .answered .. => 0

/-- Turns that the timer of a batch may still take. -/
def Rounds.effort : Rounds → Nat
  | .running _ => 2
  | .answered .. => 0

/-- A bound on the turns until no actor is ready. -/
def effort (engine : Engine) : Nat :=
  engine.floor.effort + Clockwork.together Guest.effort engine.guests +
    Clockwork.together Rounds.effort engine.rounds

instance : Clockwork Engine where
  agenda engine := engine.floor.agenda
  withAgenda engine agenda := engine.onAgenda fun _ => agenda
  turn := turn
  elapse start stop := onFloor (Clockwork.elapse start stop)
  effort := effort

end Engine

end RiskGate
