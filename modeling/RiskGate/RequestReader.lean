import RiskGate.Json.Reader
import RiskGate.Request

/-!
# Requests from JSON

A request is an object, whose unknown members are ignored and whose known
members may not be repeated, or an array of four to seven values in the order
of the fields.  The four names are strings; the figures may be missing or null.
-/

namespace RiskGate.Request

open Json (Tree)

def readName : Tree → Option String
  | .string value => value
  | _ => none

/-- A figure that is a double; an integer counts as the nearest one. -/
def readReal : Tree → Option (Option Float)
  | .null => some none
  | .number (some (.natural value)) => some (some (Span.wordFloat value))
  | .number (some (.negative magnitude)) => some (some (-(Span.wordFloat magnitude)))
  | .number (some (.real value)) => some (some value)
  | _ => none

/-- A figure that is a number of 32 bits. -/
def readCount : Tree → Option (Option Nat)
  | .null => some none
  | .number (some (.natural value)) => if value < UInt32.size then some (some value) else none
  | _ => none

/-- Read a figure that may be missing. -/
def readFigure {α : Type} (reader : Tree → Option (Option α)) : Option Tree → Option (Option α)
  | none => some none
  | some tree => reader tree

/-- The names of the fields, in order. -/
def fieldNames : List String :=
  ["business_name", "address", "industry", "country", "annual_revenue", "employee_count",
    "years_in_business"]

/-- Read a request from a way to find its fields. -/
def ofFields (find? : Nat → Option Tree) : Option Request := do
  return {
    businessName := ← find? 0 >>= readName
    address := ← find? 1 >>= readName
    industry := ← find? 2 >>= readName
    country := ← find? 3 >>= readName
    annualRevenue := ← readFigure readReal (find? 4)
    employeeCount := ← readFigure readCount (find? 5)
    yearsInBusiness := ← readFigure readCount (find? 6) }

/-- Every member has a name, and no known field occurs twice. -/
def wellNamed (members : List (Option String × Tree)) : Bool :=
  members.all (·.1.isSome) && fieldNames.all fun name => members.countP (·.1 == some name) ≤ 1

/-- Read a request from a JSON value. -/
def ofTree : Tree → Option Request
  | .object members =>
      if wellNamed members then
        ofFields fun index =>
          fieldNames[index]? >>= fun name =>
            (members.find? (·.1 == some name)).map Prod.snd
      else none
  | .array items =>
      if items.length ≤ fieldNames.length then ofFields fun index => items[index]? else none
  | _ => none

/-- Read a request from a JSON text. -/
def ofJson (text : String) : Option Request :=
  Json.readText text >>= ofTree

end RiskGate.Request
