import RiskGate.Request

/-!
# Assessments and predictions

What the scoring service answers: an assessment scores a business now, a
prediction forecasts the score some months ahead.  Both band their score into
a level.
-/

namespace RiskGate

/-- The band of a score. -/
inductive Level where
  | low
  | medium
  | high
  | critical
deriving DecidableEq, Repr, Inhabited

/-- The band of a score between 0 and 100.  A score that is not a number
reaches no band and counts as low. -/
def Level.ofScore (score : Float) : Level :=
  if 80.0 ≤ score then critical
  else if 60.0 ≤ score then high
  else if 30.0 ≤ score then medium
  else low

def Level.name : Level → String
  | low => "low"
  | medium => "medium"
  | high => "high"
  | critical => "critical"

/-- Where a forecast is heading. -/
inductive Trend where
  | improving
  | stable
  | deteriorating
deriving DecidableEq, Repr, Inhabited

def Trend.name : Trend → String
  | improving => "improving"
  | stable => "stable"
  | deteriorating => "deteriorating"

/-- One signed contribution to a score. -/
structure Factor where
  name : String
  impact : Float
  description : String

/-- The score of a business now. -/
structure Assessment where
  score : Float
  level : Level
  confidence : Float
  factors : List Factor
  model : String

instance : Inhabited Assessment := ⟨⟨0, .low, 0, [], ""⟩⟩

/-- The score of a business some months ahead. -/
structure Prediction where
  horizonMonths : Nat
  currentScore : Float
  predictedScore : Float
  level : Level
  trend : Trend
  confidence : Float
  model : String

instance : Inhabited Prediction := ⟨⟨0, 0, 0, .low, .stable, 0, ""⟩⟩

end RiskGate
