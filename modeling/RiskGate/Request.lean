/-!
# Requests

A request names a business by four fields and may carry three figures about
it.  Only the four names identify the business; the figures are for the scoring
service.
-/

namespace RiskGate

/-- A request to score one business. -/
structure Request where
  businessName : String
  address : String
  industry : String
  country : String
  annualRevenue : Option Float := none
  employeeCount : Option Nat := none
  yearsInBusiness : Option Nat := none
deriving Inhabited

end RiskGate
