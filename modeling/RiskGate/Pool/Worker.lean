import RiskGate.Pool.Floor

/-!
# Workers and the dispatcher

A worker runs one job at a time.  It does not begin a job whose scope is
cancelled, and gives up one whose scope is cancelled while it runs; the outcome
is then a cancellation.  After a shutdown has begun no job is started, and a
worker stops when it has nothing left to run.
-/

namespace RiskGate.Pool.Floor

open Schedule (Actor)

variable {ε τ ρ : Type}

/-! ## The dispatcher -/

/-- Hand the first job of the queue to the first idle worker. -/
def handOver (floor : Floor ε τ ρ) : Floor ε τ ρ :=
  match floor.queue, floor.idle with
  | job :: queue, worker :: idle =>
      ({ floor with queue := queue, idle := idle }.vacate.setDesk worker (.handed job)).wake
        (.worker worker)
  | _, _ => floor

/-- Fail jobs that were queued when the pool shut down. -/
def failAll (jobs : List (Job τ)) (floor : Floor ε τ ρ) : Floor ε τ ρ :=
  jobs.foldl (fun floor job => floor.deliver job (.error .poolShutdown)) floor

/-- Close the queue: whoever waits for room is woken to be refused, and the
queued jobs fail. -/
def closeQueue (floor : Floor ε τ ρ) : Floor ε τ ρ :=
  let woken := floor.onAgenda (·.wakeAll (floor.waiting.map Actor.caller))
  { woken with
    queue := []
    free := floor.free + floor.queue.length
    dispatching := false }.failAll floor.queue

/-- The dispatcher's turn: hand over jobs as long as there are a job and an idle
worker, or stop if the pool shuts down. -/
def dispatch (floor : Floor ε τ ρ) : Floor ε τ ρ :=
  if !floor.dispatching then floor
  else if floor.shut then floor.closeQueue.wakeClosers
  else Nat.repeat handOver (min floor.queue.length floor.idle.length) floor

/-! ## Workers -/

/-- The worker stops. -/
def stop (index : Nat) (floor : Floor ε τ ρ) : Floor ε τ ρ :=
  (floor.setDesk index .gone).wakeClosers

/-- Register a worker as idle.  The dispatcher is woken if it waits for one. -/
def register (index : Nat) (floor : Floor ε τ ρ) : Floor ε τ ρ :=
  let registered := { floor.setDesk index .idle with idle := floor.idle ++ [index] }
  if floor.idle.isEmpty then registered.wake .dispatcher else registered

/-- Deliver the outcome of a worker's job; the worker is free again, or stops. -/
def complete (index : Nat) (job : Job τ) (outcome : Outcome ρ) (floor : Floor ε τ ρ) :
    Floor ε τ ρ :=
  let delivered := (floor.onAgenda (·.release (.worker index))).deliver job outcome
  let counted := { delivered with completed := delivered.completed + 1 }
  if counted.shut then counted.stop index else counted.register index

/-- Begin a worker's job, or go on with it. -/
def run [Trade ε τ ρ] (index : Nat) (job : Job τ) (floor : Floor ε τ ρ) : Floor ε τ ρ :=
  let runner := Actor.worker index
  let (shared, progress) := Trade.resume (ρ := ρ) runner floor.now job.task floor.shared
  let floor := { floor with shared := shared }
  match progress with
  | .finished outcome => floor.complete index job outcome
  | .suspended task alarms =>
      (floor.setDesk index (.busy { job with task := task })).onAgenda fun agenda =>
        alarms.foldl (fun agenda due => agenda.setAlarm due runner) agenda

/-- Give up a worker's suspended job. -/
def giveUp [Trade ε τ ρ] (index : Nat) (job : Job τ) (floor : Floor ε τ ρ) : Floor ε τ ρ :=
  let (shared, woken) := Trade.abandon ρ (.worker index) floor.now job.task floor.shared
  ({ floor with shared := shared }.onAgenda (·.wakeAll woken)).complete index job
    (.error .cancelled)

/-- A worker's turn. -/
def work [Trade ε τ ρ] (index : Nat) (floor : Floor ε τ ρ) : Floor ε τ ρ :=
  match floor.desks[index]? with
  | some (.handed job) =>
      if floor.shut then (floor.deliver job (.error .poolShutdown)).stop index
      else if floor.isCancelled job.scope then floor.complete index job (.error .cancelled)
      else (floor.onAgenda (·.watch job.scope (.worker index))).run index job
  | some (.busy job) =>
      if floor.isCancelled job.scope then floor.giveUp index job else floor.run index job
  | some .idle => if floor.shut then floor.stop index else floor
  | some .gone | none => floor

end RiskGate.Pool.Floor
