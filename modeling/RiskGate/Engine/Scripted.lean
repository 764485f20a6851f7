import RiskGate.Engine.Service

/-!
# A scripted service

A service whose replies are written down beforehand: by the number of the call,
else by the beginning of the business's name, else one for all.
-/

namespace RiskGate.Engine

/-- One way to reply: after a while, with a score or a failure. -/
structure Behaviour where
  latency : Nat := 0
  score : Float := 42.0
  failure : Option ServiceFailure := none

/-- The replies of a scripted service. -/
structure Script where
  /-- Behaviours by the number of the call, where there is one. -/
  turns : List (Option Behaviour) := []
  /-- Behaviours by the beginning of the business's name. -/
  rules : List (String × Behaviour) := []
  otherwise : Behaviour := {}

namespace Script

/-- The behaviour for a call. -/
def behaviour (script : Script) (number : Nat) (request : Request) : Behaviour :=
  match script.turns[number]? with
  | some (some behaviour) => behaviour
  | _ =>
      let fits (rule : String × Behaviour) : Bool :=
        rule.1.toList.isPrefixOf request.businessName.toList
      ((script.rules.find? fits).map Prod.snd).getD script.otherwise

/-- The result that a behaviour scores. -/
def result (score : Float) (model : String) : (operation : Operation) → operation.Result
  | .assess =>
      { score := score
        level := Level.ofScore score
        confidence := 0.9
        factors := []
        model := model }
  | .predict horizonMonths =>
      { horizonMonths := horizonMonths
        currentScore := score
        predictedScore := score
        level := Level.ofScore score
        trend := .stable
        confidence := 0.8
        model := model }

/-- The service that follows a script. -/
def service (script : Script) : Service where
  reply number operation model request :=
    let behaviour := script.behaviour number request
    { latency := behaviour.latency
      outcome :=
        match behaviour.failure with
        | some failure => .error failure
        | none => .ok (result behaviour.score model operation) }

end Script

end RiskGate.Engine
