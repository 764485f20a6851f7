import RiskGate.Pool.Worker
import RiskGate.Schedule.Clockwork

/-!
# Calls to a pool

A job can be submitted at once or with some patience, a batch of tasks can be
run and its outcomes joined, and the pool can be shut down.  All but the first
may take time: they leave a caller behind, whose turns lead to the answer.

A batch hands its jobs in one after another, each with the same patience, and
looks at its scope only once all of them are handed in.  From then on it picks
up outcomes as they come, and ends early, with what it has picked up before,
when its scope is cancelled.
-/

namespace RiskGate.Pool.Floor

open Schedule (Actor)
open Schedule.Clockwork (together)

variable {ε τ ρ : Type}

/-! ## Submissions -/

/-- Submit a job without patience. -/
def offerNow (job : Job τ) (floor : Floor ε τ ρ) : Floor ε τ ρ × Outcome Unit :=
  if floor.shut then (floor.reject job .poolShutdown, .error .poolShutdown)
  else if 0 < floor.free then (floor.takePlace job, .ok ())
  else (floor.reject job .queueFull, .error .queueFull)

/-- Submit a task without patience.  Gives the ticket of its job. -/
def submit (scope : Nat) (task : τ) (floor : Floor ε τ ρ) : Floor ε τ ρ × Nat × Outcome Unit :=
  let (floor, job) := floor.issue scope task
  let (floor, answer) := floor.offerNow job
  (floor, job.ticket, answer)

/-- Make a job and drop it, which fails it. -/
def discard (scope : Nat) (task : τ) (floor : Floor ε τ ρ) : Floor ε τ ρ × Nat :=
  let (floor, job) := floor.issue scope task
  (floor.deliver job (.error .poolShutdown), job.ticket)

/-- Begin to submit a job with patience: the answer, or none while the caller
waits for room. -/
def offer (caller : Nat) (job : Job τ) (wait : Span) (floor : Floor ε τ ρ) :
    Floor ε τ ρ × Option (Outcome Unit) :=
  if floor.shut then (floor.reject job .poolShutdown, some (.error .poolShutdown))
  else if 0 < floor.free then (floor.takePlace job, some (.ok ()))
  else
    let due := floor.agenda.dueAfter wait
    if due ≤ floor.now then
      (floor.reject job (.submissionTimeout wait), some (.error (.submissionTimeout wait)))
    else
      ({ floor with waiting := floor.waiting ++ [caller] }.onAgenda
        (·.setAlarm due (.caller caller)), none)

/-- A caller no longer waits for room. -/
def withdraw (caller : Nat) (floor : Floor ε τ ρ) : Floor ε τ ρ :=
  { floor with
    waiting := floor.waiting.filter (· != caller)
    granted := floor.granted.filter (· != caller) }.onAgenda (·.release (.caller caller))

/-- Go on with a submission that waits for room until an instant.  Room that was
promised to it is free again if the queue was closed meanwhile. -/
def offerAgain (caller : Nat) (job : Job τ) (wait : Span) (due : Nat) (floor : Floor ε τ ρ) :
    Floor ε τ ρ × Option (Outcome Unit) :=
  let promised := decide (caller ∈ floor.granted)
  let withdrawn := floor.withdraw caller
  if !floor.dispatching then
    ({ withdrawn with free := floor.free + promised.toNat }.reject job .poolShutdown,
      some (.error .poolShutdown))
  else if promised then (withdrawn.enqueue job, some (.ok ()))
  else if due ≤ floor.now then
    (withdrawn.reject job (.submissionTimeout wait), some (.error (.submissionTimeout wait)))
  else (floor, none)

/-- Add a caller. -/
def enter (caller : Caller τ ρ) (floor : Floor ε τ ρ) : Floor ε τ ρ × Nat :=
  ({ floor with callers := floor.callers ++ [caller] }, floor.callers.length)

/-- Submit a task with patience.  Gives the ticket of its job and the number of
the caller. -/
def submitWithin (wait : Span) (scope : Nat) (task : τ) (floor : Floor ε τ ρ) :
    Floor ε τ ρ × Nat × Nat :=
  let (floor, job) := floor.issue scope task
  let (floor, caller) := floor.enter (.offering job wait (floor.agenda.dueAfter wait))
  match floor.offer caller job wait with
  | (floor, some answer) =>
      (floor.setCaller caller (.offered answer floor.now), job.ticket, caller)
  | (floor, none) => (floor, job.ticket, caller)

/-- Go on with a submission of a single task. -/
def offeringTurn (caller : Nat) (job : Job τ) (wait : Span) (due : Nat) (floor : Floor ε τ ρ) :
    Floor ε τ ρ :=
  match floor.offerAgain caller job wait due with
  | (floor, some answer) => floor.setCaller caller (.offered answer floor.now)
  | (floor, none) => floor

/-! ## Batches -/

/-- Pick up the outcomes that have come, and end the batch if all have or if its
scope is cancelled. -/
def join (caller : Nat) (batch : Batch τ ρ) (floor : Floor ε τ ρ) : Floor ε τ ρ :=
  let floor := floor.onAgenda (·.release (.caller caller))
  if floor.isCancelled batch.scope then
    floor.setCaller caller (.batched batch floor.now)
  else
    let collected := batch.tickets.filterMap fun ticket =>
      (floor.outcome? ticket).map fun delivery => (ticket, delivery.outcome)
    let batch := { batch with collected := collected, stage := .joining }
    if collected.length = batch.tickets.length then
      floor.setCaller caller (.batched batch floor.now)
    else
      (floor.setCaller caller (.batching batch)).onAgenda
        (·.watch batch.scope (.caller caller))

/-- Hand in tasks of a batch as long as none has to wait for room, and then
join. -/
def handIn (caller : Nat) (batch : Batch τ ρ) : List τ → Floor ε τ ρ → Floor ε τ ρ
  | [], floor => floor.join caller batch
  | task :: rest, floor =>
      let (floor, job) := floor.issue batch.scope task
      let batch := { batch with tickets := batch.tickets ++ [job.ticket] }
      match floor.offer caller job batch.wait with
      | (floor, some _) => handIn caller batch rest floor
      | (floor, none) =>
          let due := floor.agenda.dueAfter batch.wait
          floor.setCaller caller (.batching { batch with stage := .offering job due rest })

/-- Run tasks as a batch.  Gives the number of the caller. -/
def executeBatch (wait : Span) (scope : Nat) (tasks : List τ) (floor : Floor ε τ ρ) :
    Floor ε τ ρ × Nat :=
  let batch : Batch τ ρ := { scope := scope, wait := wait }
  let (floor, caller) := floor.enter (.batching batch)
  (floor.handIn caller batch tasks, caller)

/-- Go on with a batch. -/
def batchTurn (caller : Nat) (batch : Batch τ ρ) (floor : Floor ε τ ρ) : Floor ε τ ρ :=
  match batch.stage with
  | .joining => floor.join caller batch
  | .offering job due rest =>
      match floor.offerAgain caller job batch.wait due with
      | (floor, some _) =>
          let batch := { batch with stage := .joining }
          (floor.setCaller caller (.batching batch)).handIn caller batch rest
      | (floor, none) => floor

/-! ## Shutdown -/

/-- Shut the pool down.  The first shutdown waits, up to a limit, until all
workers have stopped; any later one is answered at once. -/
def shutdown (limit : Span) (floor : Floor ε τ ρ) : Floor ε τ ρ × Nat :=
  if floor.shut then floor.enter (.closed (.ok ()) floor.now)
  else
    let shut := { floor with shut := true }.onAgenda fun agenda =>
      (agenda.wakeAll (floor.idle.map Actor.worker)).wake .dispatcher
    let due := floor.agenda.dueAfter limit
    if due ≤ floor.now then
      shut.enter (.closed (.error (.deadlineExceeded limit)) floor.now)
    else
      let (shut, caller) := shut.enter (.closing limit due)
      (shut.onAgenda (·.setAlarm due (.caller caller)), caller)

/-- Go on with a shutdown.  Its alarm is heard before all else that happens at the
same instant: workers who stop only then have not stopped in time. -/
def closingTurn (caller : Nat) (limit : Span) (due : Nat) (floor : Floor ε τ ρ) :
    Floor ε τ ρ :=
  let settled := floor.onAgenda (·.release (.caller caller))
  if due ≤ floor.now then
    settled.setCaller caller (.closed (.error (.deadlineExceeded limit)) floor.now)
  else if floor.isStopped then settled.setCaller caller (.closed (.ok ()) floor.now)
  else floor

/-! ## Answers -/

/-- The answer to a submission or a shutdown and its instant, once there is
one. -/
def answer? (caller : Nat) (floor : Floor ε τ ρ) : Option (Outcome Unit × Nat) :=
  match floor.callers[caller]? with
  | some (.offered answer instant) | some (.closed answer instant) => some (answer, instant)
  | _ => none

/-- The outcomes of a batch and the instant of its end, once it has ended. -/
def outcomes? (caller : Nat) (floor : Floor ε τ ρ) : Option (List (Outcome ρ) × Nat) :=
  match floor.callers[caller]? with
  | some (.batched batch instant) => some (batch.outcomes, instant)
  | _ => none

/-! ## Turns -/

/-- A caller's turn. -/
def attend (caller : Nat) (floor : Floor ε τ ρ) : Floor ε τ ρ :=
  match floor.callers[caller]? with
  | some (.offering job wait due) => floor.offeringTurn caller job wait due
  | some (.batching batch) => floor.batchTurn caller batch
  | some (.closing limit due) => floor.closingTurn caller limit due
  | _ => floor

/-- The turn of an actor of the pool. -/
def turn [Trade ε τ ρ] : Actor → Floor ε τ ρ → Floor ε τ ρ
  | .dispatcher, floor => floor.dispatch
  | .worker index, floor => floor.work index
  | .caller caller, floor => floor.attend caller
  | .guest _, floor | .timer _, floor => floor

/-! ## Effort

Every turn uses up more of what is left to do than it adds: a task to be handed
in is worth more turns than a queued job, a queued job more than one that is
handed over, and that more than one that was begun. -/

/-- A bound on the turns until no actor is ready. -/
def effort (floor : Floor ε τ ρ) : Nat :=
  floor.agenda.ready.length + 12 * floor.queue.length + together Desk.effort floor.desks +
    together Caller.effort floor.callers + if floor.dispatching then 1 else 0

instance [Trade ε τ ρ] : Schedule.Clockwork (Floor ε τ ρ) where
  agenda := Floor.agenda
  withAgenda floor agenda := { floor with agenda := agenda }
  turn := turn
  elapse start stop floor :=
    { floor with shared := Trade.elapse τ ρ start stop floor.shared }
  effort := effort

end RiskGate.Pool.Floor
