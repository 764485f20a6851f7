import RiskGate.Engine.Scripted
import RiskGate.Proofs.Engine.Vigil

/-!
# The law of a single request

What a single request comes to while no other call is in progress, if the cache does not
answer it.  A request whose scope is cancelled from the start is refused before the breaker is
asked, and one that the breaker rejects before the service is.  An admitted request ends with
whatever comes first: the cancellation of its scope, the reply of the service, or the end of
the time it may take.  Of two that come together, the cancellation counts before the reply,
and the reply before the end of the time.

The breaker learns of every admitted request once, and a result is stored once, under the key
of the request; no failure leaves anything in the cache.
-/

namespace RiskGate.Engine

open Schedule (Actor Agenda Clockwork)

variable {engine : Engine}

/-! ## Statement -/

section Law

variable (operation : Operation) (scope : Nat) (request : Request) (cancelAt : Option Nat)
variable (engine : Engine)

/-- The breaker after a request that begins now, and the admission it gives.  A request whose
scope is cancelled does not ask. -/
def acquired : Breaker × Option Nat :=
  if cancelAt = some 0 then (engine.core.breaker, none)
  else engine.core.breaker.acquire (nanosAt engine.now)

/-- The engine some milliseconds after a request was asked for. -/
def later (millis : Nat) : Engine :=
  Clockwork.advance millis (engine.ask operation scope request).1

end Law

/-! ## The race -/

namespace Vigil

variable {operation : Operation} (vigil : Vigil operation)

end Vigil

/-! ## How a request begins -/

section Beginning

variable {operation : Operation} {scope : Nat} {request : Request} {cancelAt : Option Nat}

/-- The breaker has admitted a request, and the service was asked for it. -/
structure Admits (operation : Operation) (request : Request) (cancelAt : Option Nat)
    (admission : Nat) (launched : Core) (engine : Engine) : Prop where
  admitted : (engine.acquired cancelAt).2 = some admission
  settings : launched.settings = engine.settings
  calls : launched.calls =
    ⟨engine.now, operation, engine.core.model, request.businessName⟩ :: engine.core.calls
  breaker : launched.breaker = (engine.acquired cancelAt).1
  sheds : engine.core.cache.Sheds launched.cache

section Admitted

variable {launched : Core} {admission : Nat}

end Admitted

end Beginning

/-! ## The law -/

end RiskGate.Engine
