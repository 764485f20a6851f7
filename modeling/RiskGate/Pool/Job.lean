import RiskGate.Failure
import RiskGate.Schedule.Agenda

/-!
# Jobs

A job is a task to be run by some worker on behalf of a scope.  Every job has a
ticket of its own, under which its outcome is delivered, whatever becomes of
it.
-/

namespace RiskGate.Pool

/-- A task that waits for a worker or is being run by one. -/
structure Job (τ : Type) where
  ticket : Nat
  /-- The job is given up when this scope is cancelled. -/
  scope : Nat
  task : τ
deriving Repr

/-- The outcome of a job, and the instant at which it became known. -/
structure Delivery (ρ : Type) where
  ticket : Nat
  outcome : Outcome ρ
  deliveredAt : Nat

/-- How far a task got in one turn. -/
inductive Progress (τ ρ : Type) where
  | finished (outcome : Outcome ρ)
  /-- The task goes on when one of the alarms rings, or when something else
  wakes whoever runs it. -/
  | suspended (task : τ) (alarms : List Nat)

/-- What tasks of a kind do when they are run, over the things they share. -/
class Trade (ε τ ρ : Type) where
  /-- Begin a task, or go on with it. -/
  resume : (runner : Schedule.Actor) → (now : Nat) → τ → ε → ε × Progress τ ρ
  /-- Give up a task that was suspended, and say who must be woken. -/
  abandon : (runner : Schedule.Actor) → (now : Nat) → τ → ε → ε × List Schedule.Actor
  /-- What happens to the shared things while the clock moves. -/
  elapse : (start stop : Nat) → ε → ε

end RiskGate.Pool
