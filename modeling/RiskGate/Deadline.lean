import RiskGate.Failure

/-!
# Deadlines

Guarded work is given up when its caller cancels it or when its time is up.
Whoever looks at it at some instant judges by what has happened up to then:
cancellation comes before everything, and work that is ready in time counts
even if its time is up at the same instant.

Instants are in milliseconds.
-/

namespace RiskGate.Deadline

/-- What has become of guarded work. -/
inductive Verdict where
  | cancelled
  | ready
  | expired
  | pending
deriving DecidableEq, Repr

/-- Judge guarded work that is ready at one instant and expires at another. -/
def judge (cancelled : Bool) (readyAt expiresAt now : Nat) : Verdict :=
  if cancelled then .cancelled
  else if readyAt ≤ now then .ready
  else if expiresAt ≤ now then .expired
  else .pending

/-- Guarded work that begins at the instant 0: its outcome, and the instant at
which it is known.  The work is ready after `latency`, and is cancelled at
`cancelAt`, if at all. -/
def guard {α : Type} (limit : Span) (expiresAt latency : Nat) (cancelAt : Option Nat)
    (outcome : Outcome α) : Outcome α × Nat :=
  let natural := min latency expiresAt
  let instant := match cancelAt with
    | none => natural
    | some cancel => min natural cancel
  match judge (cancelAt.any (· ≤ instant)) latency expiresAt instant with
  | .cancelled => (.error .cancelled, instant)
  | .ready => (outcome, instant)
  | .expired | .pending => (.error (.deadlineExceeded limit), instant)

end RiskGate.Deadline
