import RiskGate.Pool.Job
import RiskGate.Tally

/-!
# The floor of a pool

A pool has a fixed number of workers and a queue of bounded length.  An idle
worker registers with the dispatcher, who hands the jobs of the queue to the
idle workers, each in the order of arrival.  A submission that finds the queue
full either fails or waits for room; room that becomes free goes to the
submission that has waited longest, so a later one cannot overtake it.

This module holds the state of a pool and the small moves from which the turns
of its actors are made.
-/

namespace RiskGate.Pool

open Schedule (Actor Agenda)

/-- What a worker is at. -/
inductive Desk (τ : Type) where
  | idle
  /-- A job was handed over and is not begun. -/
  | handed (job : Job τ)
  /-- A job was begun and is suspended. -/
  | busy (job : Job τ)
  /-- The worker has stopped. -/
  | gone

/-- A desk whose worker has stopped. -/
def Desk.isGone {τ : Type} : Desk τ → Bool
  | .gone => true
  | _ => false

/-- How far a batch is with handing in its jobs. -/
inductive Stage (τ : Type) where
  /-- A job waits for room until an instant; tasks are left after it. -/
  | offering (job : Job τ) (due : Nat) (rest : List τ)
  /-- All jobs are handed in. -/
  | joining

/-- Jobs that are handed in together and whose outcomes are awaited together. -/
structure Batch (τ ρ : Type) where
  scope : Nat
  /-- How long each job may wait for room. -/
  wait : Span
  /-- The tickets of the jobs handed in so far, in order. -/
  tickets : List Nat := []
  /-- Outcomes that were picked up, by ticket. -/
  collected : List (Nat × Outcome ρ) := []
  stage : Stage τ := .joining

/-- The outcomes of a batch in the order of its tasks; what was not picked up
counts as cancelled. -/
def Batch.outcomes {τ ρ : Type} (batch : Batch τ ρ) : List (Outcome ρ) :=
  batch.tickets.map fun ticket =>
    ((batch.collected.find? (·.1 == ticket)).map Prod.snd).getD (.error .cancelled)

/-- Someone who waits for an answer of the pool. -/
inductive Caller (τ ρ : Type) where
  /-- A submission that waits for room until an instant. -/
  | offering (job : Job τ) (wait : Span) (due : Nat)
  /-- A submission with its answer and the instant of the answer. -/
  | offered (answer : Outcome Unit) (instant : Nat)
  | batching (batch : Batch τ ρ)
  /-- A batch that has ended, with the instant of its end. -/
  | batched (batch : Batch τ ρ) (instant : Nat)
  /-- A shutdown that waits for the workers until an instant. -/
  | closing (limit : Span) (due : Nat)
  | closed (answer : Outcome Unit) (instant : Nat)

/-- The caller is a batch that waits for the job with a ticket. -/
def Caller.awaits {τ ρ : Type} (ticket : Nat) : Caller τ ρ → Bool
  | .batching batch =>
      match batch.stage with
      | .joining => ticket ∈ batch.tickets
      | .offering .. => false
  | _ => false

/-- The caller waits for a shutdown to end. -/
def Caller.isClosing {τ ρ : Type} : Caller τ ρ → Bool
  | .closing .. => true
  | _ => false

/-- Turns that a worker's state may still take. -/
def Desk.effort {τ : Type} : Desk τ → Nat
  | .handed _ => 8
  | .busy _ => 6
  | .idle => 1
  | .gone => 0

/-- Turns that a caller's state may still take. -/
def Caller.effort {τ ρ : Type} : Caller τ ρ → Nat
  | .offering .. => 16
  | .batching batch =>
      match batch.stage with
      | .joining => 3
      | .offering _ _ rest => 16 * (rest.length + 1) + 3
  | .closing .. => 3
  | .offered .. | .batched .. | .closed .. => 0

/-- The state of a pool: its queue, its workers, its callers and its books,
with the agenda and the things its tasks share. -/
structure Floor (ε τ ρ : Type) where
  agenda : Agenda := {}
  shared : ε
  capacity : Nat
  /-- Free places of the queue that are promised to nobody. -/
  free : Nat
  queue : List (Job τ) := []
  /-- Callers who wait for room, the first one first. -/
  waiting : List Nat := []
  /-- Callers who were promised room and have not taken it yet. -/
  granted : List Nat := []
  /-- Workers registered with the dispatcher, the first one first. -/
  idle : List Nat
  desks : List (Desk τ)
  callers : List (Caller τ ρ) := []
  /-- The dispatcher has not stopped. -/
  dispatching : Bool := true
  /-- Shutdown has begun. -/
  shut : Bool := false
  /-- Number of the next ticket. -/
  nextTicket : Nat := 0
  /-- Outcomes delivered so far, the latest first. -/
  deliveries : List (Delivery ρ) := []
  submitted : Nat := 0
  completed : Nat := 0
  rejected : Nat := 0
  /-- Rejections by the kind of failure. -/
  reasons : Tally := []

namespace Floor

variable {ε τ ρ : Type}

/-- A pool whose workers are all idle.  It has one worker and one place in the
queue at least. -/
def make (workers capacity : Nat) (shared : ε) : Floor ε τ ρ where
  shared := shared
  capacity := max capacity 1
  free := max capacity 1
  idle := List.range (max workers 1)
  desks := List.replicate (max workers 1) .idle

/-- The number of workers. -/
def workers (floor : Floor ε τ ρ) : Nat := floor.desks.length

/-- Places of the queue that are taken or promised. -/
def queued (floor : Floor ε τ ρ) : Nat := floor.capacity - floor.free

def onAgenda (change : Agenda → Agenda) (floor : Floor ε τ ρ) : Floor ε τ ρ :=
  { floor with agenda := change floor.agenda }

def wake (actor : Actor) (floor : Floor ε τ ρ) : Floor ε τ ρ :=
  floor.onAgenda (·.wake actor)

def now (floor : Floor ε τ ρ) : Nat := floor.agenda.now

def isCancelled (scope : Nat) (floor : Floor ε τ ρ) : Bool :=
  floor.agenda.isCancelled scope

/-! ## Delivery -/

/-- The numbers of the callers with a property. -/
def callersWith (property : Caller τ ρ → Bool) (floor : Floor ε τ ρ) : List Nat :=
  (List.range floor.callers.length).filter fun number =>
    (floor.callers[number]?).any property

/-- Deliver the outcome of a job, and wake the batch that waits for it. -/
def deliver (job : Job τ) (outcome : Outcome ρ) (floor : Floor ε τ ρ) : Floor ε τ ρ :=
  let waiters := floor.callersWith (Caller.awaits job.ticket)
  { floor with deliveries := ⟨job.ticket, outcome, floor.now⟩ :: floor.deliveries }.onAgenda
    (·.wakeAll (waiters.map Actor.caller))

/-- Refuse a job: its outcome is the failure, which is counted. -/
def reject (job : Job τ) (failure : Failure) (floor : Floor ε τ ρ) : Floor ε τ ρ :=
  { floor with
    rejected := floor.rejected + 1
    reasons := floor.reasons.bump failure.kind.name }.deliver job (.error failure)

/-- The outcome of the job with a ticket, if it is known. -/
def outcome? (ticket : Nat) (floor : Floor ε τ ρ) : Option (Delivery ρ) :=
  floor.deliveries.find? (·.ticket == ticket)

/-! ## The queue -/

/-- A job with a ticket of its own. -/
def issue (scope : Nat) (task : τ) (floor : Floor ε τ ρ) : Floor ε τ ρ × Job τ :=
  ({ floor with nextTicket := floor.nextTicket + 1 }, ⟨floor.nextTicket, scope, task⟩)

/-- Put a job into a place of the queue that was taken for it.  The dispatcher
is woken if it waits for a job. -/
def enqueue (job : Job τ) (floor : Floor ε τ ρ) : Floor ε τ ρ :=
  let queued :=
    { floor with queue := floor.queue ++ [job], submitted := floor.submitted + 1 }
  if floor.idle.isEmpty then queued else queued.wake .dispatcher

/-- Take a free place of the queue for a job. -/
def takePlace (job : Job τ) (floor : Floor ε τ ρ) : Floor ε τ ρ :=
  { floor with free := floor.free - 1 }.enqueue job

/-- A place of the queue became free: it is promised to the caller who has
waited longest, who is woken. -/
def vacate (floor : Floor ε τ ρ) : Floor ε τ ρ :=
  match floor.waiting with
  | [] => { floor with free := floor.free + 1 }
  | caller :: rest =>
      { floor with waiting := rest, granted := floor.granted ++ [caller] }.wake (.caller caller)

/-! ## Workers and callers -/

def setDesk (index : Nat) (desk : Desk τ) (floor : Floor ε τ ρ) : Floor ε τ ρ :=
  { floor with desks := floor.desks.set index desk }

def setCaller (number : Nat) (caller : Caller τ ρ) (floor : Floor ε τ ρ) : Floor ε τ ρ :=
  { floor with callers := floor.callers.set number caller }

/-- Wake those who wait for the pool to stop. -/
def wakeClosers (floor : Floor ε τ ρ) : Floor ε τ ρ :=
  floor.onAgenda (·.wakeAll ((floor.callersWith Caller.isClosing).map Actor.caller))

/-- The dispatcher and all workers have stopped. -/
def isStopped (floor : Floor ε τ ρ) : Bool :=
  !floor.dispatching && floor.desks.all Desk.isGone

end Floor

end RiskGate.Pool
