import RiskGate.Request

/-!
# Made-up businesses

The requests that a simulation sends.  They differ by number: names and
addresses never repeat, the industry goes round a list of four, and every third
business keeps its age to itself.
-/

namespace RiskGate.Simulation

/-- The industries of the made-up businesses, in turn. -/
def industry (index : Nat) : String :=
  match index % 4 with
  | 0 => "Retail"
  | 1 => "Software"
  | 2 => "Crypto Exchange"
  | _ => "Logistics"

/-- The request for the business with a number. -/
def business (index : Nat) : Request where
  businessName := "Business " ++ toString index
  address := toString (index + 1) ++ " Market St"
  industry := industry index
  country := "US"
  yearsInBusiness := if index % 3 = 0 then none else some (index % 12)

end RiskGate.Simulation
