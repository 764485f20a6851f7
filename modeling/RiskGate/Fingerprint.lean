import RiskGate.Request
import RiskGate.Text.Blank
import RiskGate.Text.Lowercase
import RiskGate.Text.Quoted

/-!
# Fingerprints

The cache key of a request.  The four identifying fields are reduced to their
lowercase words, so that requests for the same business meet, and then written
in quoted form, so that no text inside a field can pass for the end of it.
Assessments and predictions have keys of different shapes.
-/

namespace RiskGate

namespace Fingerprint

/-- The identity of a field: its words in lower case. -/
def fieldWords (field : String) : List (List Char) :=
  (Text.words field.toList).map Text.lowercase

/-- Lowercase words with one space between each two. -/
def joinWords : List (List Char) → List Char
  | [] => []
  | [word] => word
  | word :: rest => word ++ ' ' :: joinWords rest

/-- The written form of a field. -/
def field (text : String) : List Char :=
  Text.quoted (joinWords (fieldWords text))

/-- The four fields, divided by bars. -/
def identity (request : Request) : List Char :=
  field request.businessName ++ '|' :: field request.address ++
    '|' :: field request.industry ++ '|' :: field request.country

/-- The key under which the assessment of a request is cached. -/
def assessment (request : Request) : String :=
  String.ofList ("assess:".toList ++ identity request)

/-- The key under which a prediction is cached. -/
def prediction (request : Request) (horizonMonths : Nat) : String :=
  String.ofList
    ("predict:".toList ++ identity request ++ '|' :: Nat.toDigits 10 horizonMonths)

end Fingerprint

end RiskGate
