import RiskGate.Span

/-!
# Failures

Why a request was not answered.  A failure is a cause; its kind is the label
under which it is counted, and its message is for people.
-/

namespace RiskGate

/-- A failure of the scoring service itself. -/
inductive ServiceFailure where
  | modelUnavailable (detail : String)
  | invalidRequest (detail : String)
  | inference (detail : String)
deriving DecidableEq, Repr, Inhabited

def ServiceFailure.message : ServiceFailure → String
  | modelUnavailable detail => "model unavailable: " ++ detail
  | invalidRequest detail => "invalid request: " ++ detail
  | inference detail => "inference failed: " ++ detail

/-- The label of a failure of the service. -/
def ServiceFailure.name : ServiceFailure → String
  | modelUnavailable _ => "model_unavailable"
  | invalidRequest _ => "invalid_request"
  | inference _ => "inference"

/-- The label of a failure. -/
inductive FailureKind where
  | queueFull
  | submissionTimeout
  | circuitOpen
  | backend
  | deadlineExceeded
  | cancelled
  | poolShutdown
  | batchTooLarge
  | batch
deriving DecidableEq, Repr, Inhabited

def FailureKind.name : FailureKind → String
  | queueFull => "queue_full"
  | submissionTimeout => "submission_timeout"
  | circuitOpen => "circuit_open"
  | backend => "backend"
  | deadlineExceeded => "deadline_exceeded"
  | cancelled => "cancelled"
  | poolShutdown => "pool_shutdown"
  | batchTooLarge => "batch_too_large"
  | batch => "batch"

/-- Why a request, or a whole batch, was not answered. -/
inductive Failure where
  /-- The pool's queue had no room. -/
  | queueFull
  /-- The queue had no room for as long as the caller would wait. -/
  | submissionTimeout (wait : Span)
  /-- The breaker rejected the call. -/
  | circuitOpen
  /-- The scoring service failed. -/
  | backend (operation : String) (cause : ServiceFailure)
  /-- The call took longer than it may. -/
  | deadlineExceeded (limit : Span)
  /-- The caller cancelled. -/
  | cancelled
  /-- The pool takes no more jobs. -/
  | poolShutdown
  /-- The batch has more items than there are workers. -/
  | batchTooLarge (size limit : Nat)
  /-- Some items of a batch failed; each is given with its position. -/
  | batch (total : Nat) (failures : List (Nat × Failure))
deriving Inhabited

namespace Failure

def kind : Failure → FailureKind
  | queueFull => .queueFull
  | submissionTimeout _ => .submissionTimeout
  | circuitOpen => .circuitOpen
  | backend _ _ => .backend
  | deadlineExceeded _ => .deadlineExceeded
  | cancelled => .cancelled
  | poolShutdown => .poolShutdown
  | batchTooLarge _ _ => .batchTooLarge
  | batch _ _ => .batch

def message : Failure → String
  | queueFull => "worker pool queue is full"
  | submissionTimeout wait => "timed out after " ++ wait.text ++ " waiting for queue capacity"
  | circuitOpen => "circuit breaker is open"
  | backend operation cause => operation ++ " failed: " ++ cause.message
  | deadlineExceeded limit => "deadline of " ++ limit.text ++ " exceeded"
  | cancelled => "request cancelled"
  | poolShutdown => "worker pool is shut down"
  | batchTooLarge size limit =>
      "batch of " ++ toString size ++ " requests exceeds the limit of " ++ toString limit
  | batch total failures =>
      toString failures.length ++ " of " ++ toString total ++ " batch items failed"

/-- The breaker rejected the call, so the service was not asked. -/
def isCircuitOpen (failure : Failure) : Bool :=
  failure.kind == .circuitOpen

end Failure

/-- The outcome of one call. -/
abbrev Outcome (α : Type) := Except Failure α

end RiskGate
