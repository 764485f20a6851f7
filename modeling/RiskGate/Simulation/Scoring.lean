import RiskGate.Assessment
import RiskGate.Failure
import RiskGate.Text.Blank
import RiskGate.Text.Lowercase

/-!
# A made-up scoring service

The service of a simulation scores by rule.  Every business starts at 20; a
high-risk industry adds 45, five years in business take 10 away, and an unknown
age adds 10.  A forecast drifts up by half a point for each month.  The service
can be out of order, and then fails every call.
-/

namespace RiskGate.Simulation

/-- The characters of `needle` occur in a row. -/
def occurs (needle : List Char) : List Char → Bool
  | [] => needle.isEmpty
  | c :: rest => needle.isPrefixOf (c :: rest) || occurs needle rest

/-- The industry is named after a high-risk trade, in whatever case. -/
def isHighRisk (industry : String) : Bool :=
  let lower := Text.lowercase industry.toList
  ["crypto", "gambling", "firearms"].any fun trade => occurs trade.toList lower

/-- What the industry adds. -/
def industryFactors (request : Request) : List Factor :=
  if isHighRisk request.industry then
    [⟨"industry", 45.0, "high-risk industry: " ++ request.industry⟩]
  else []

/-- What the years in business add or take away. -/
def tenureFactors (request : Request) : List Factor :=
  match request.yearsInBusiness with
  | some years =>
      if 5 ≤ years then [⟨"tenure", -10.0, toString years ++ " years in business"⟩] else []
  | none => [⟨"tenure", 10.0, "unknown business age"⟩]

def factors (request : Request) : List Factor :=
  industryFactors request ++ tenureFactors request

/-- A score kept between 0 and 100. -/
def clamp (score : Float) : Float :=
  if score < 0.0 then 0.0 else if 100.0 < score then 100.0 else score

/-- The score of a business now. -/
def score (request : Request) : Float :=
  clamp ((factors request).foldl (fun sum factor => sum + factor.impact) 20.0)

/-- The failure of a service that is out of order. -/
def outage : ServiceFailure := .modelUnavailable "simulated outage"

/-- Assess a business.  A business without a name is refused before anything
else. -/
def assess (outOfOrder : Bool) (model : String) (request : Request) :
    Except ServiceFailure Assessment :=
  if (Text.trim request.businessName.toList).isEmpty then
    .error (.invalidRequest "business name is empty")
  else if outOfOrder then .error outage
  else
    .ok
      { score := score request
        level := Level.ofScore (score request)
        confidence := 0.85
        factors := factors request
        model := model }

/-- Confidence in a forecast, which falls with the months but not below a
half. -/
def forecastConfidence (months : Float) : Float :=
  let confidence := 0.9 - months * 0.01
  if confidence < 0.5 then 0.5 else confidence

/-- Forecast the score of a business. -/
def predict (outOfOrder : Bool) (model : String) (request : Request) (horizonMonths : Nat) :
    Except ServiceFailure Prediction :=
  if outOfOrder then .error outage
  else
    let months := horizonMonths.toUInt64.toFloat
    let drift := months * 0.5
    let predicted := clamp (score request + drift)
    .ok
      { horizonMonths := horizonMonths
        currentScore := score request
        predictedScore := predicted
        level := Level.ofScore predicted
        trend := if 1.0 < drift then .deteriorating else .stable
        confidence := forecastConfidence months
        model := model }

end RiskGate.Simulation
