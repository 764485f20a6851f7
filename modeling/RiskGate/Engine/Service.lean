import RiskGate.Assessment
import RiskGate.Failure

/-!
# The scoring service

An engine stands before a service that scores businesses.  The service has two
operations, and its reply may depend on how many calls came before.
-/

namespace RiskGate.Engine

/-- What a service can be asked for. -/
inductive Operation where
  /-- The score of a business now. -/
  | assess
  /-- The score of a business some months ahead. -/
  | predict (horizonMonths : Nat)
deriving DecidableEq, Repr, Inhabited

namespace Operation

/-- What an operation yields. -/
abbrev Result : Operation → Type
  | assess => Assessment
  | predict _ => Prediction

/-- The name of an operation in the message of a failure. -/
def name : Operation → String
  | assess => "risk assessment"
  | predict _ => "risk prediction"

end Operation

/-- An answer of either operation, as it is cached. -/
inductive Answer where
  | assessment (value : Assessment)
  | prediction (value : Prediction)

/-- An operation's result as an answer. -/
def Operation.toAnswer : (operation : Operation) → operation.Result → Answer
  | .assess, value => .assessment value
  | .predict _, value => .prediction value

/-- An answer as the operation's result, if it is one. -/
def Operation.ofAnswer : (operation : Operation) → Answer → Option operation.Result
  | .assess, .assessment value => some value
  | .predict _, .prediction value => some value
  | .assess, .prediction _ | .predict _, .assessment _ => none

/-- A service's reply to a call, and how long it takes. -/
structure Reply (α : Type) where
  latency : Nat := 0
  outcome : Except ServiceFailure α

/-- A scoring service: its reply to the call with a number, for an operation, a
model and a request. -/
structure Service where
  reply : Nat → (operation : Operation) → String → Request → Reply operation.Result

end RiskGate.Engine
