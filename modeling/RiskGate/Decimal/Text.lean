import RiskGate.Decimal.Shortest

/-!
# Texts of doubles

Three ways to write a double:

* `plain` never uses an exponent and drops the point of an integral value;
* `fixed` has a given number of decimal places and rounds the exact value, a
  half to the even neighbour;
* `json` keeps the point of an integral value and uses an exponent for values
  of 10^16 and more and below 10^-5; it has no text for the values that are not
  finite.
-/

namespace RiskGate.Decimal

/-- A minus sign where asked for. -/
def sign (negative : Bool) : List Char :=
  if negative then ['-'] else []

/-- `count` zeros. -/
def zeros (count : Nat) : List Char :=
  List.replicate count '0'

/-- Positional text of a decimal, without a sign or an exponent. -/
def Scientific.positional (decimal : Scientific) : List Char :=
  let ds := digits decimal.coefficient
  if 0 ≤ decimal.exponent then
    ds ++ zeros decimal.exponent.toNat
  else
    let places := (-decimal.exponent).toNat
    if ds.length ≤ places then
      ['0', '.'] ++ zeros (places - ds.length) ++ ds
    else
      ds.take (ds.length - places) ++ '.' :: ds.drop (ds.length - places)

/-- A double with as many digits as it needs, and no exponent. -/
def plain (x : Float) : String :=
  match Binary.ofFloat x with
  | .notANumber => "NaN"
  | .infinite negative => String.ofList (sign negative ++ ['i', 'n', 'f'])
  | .finite negative mantissa exponent =>
      if mantissa = 0 then String.ofList (sign negative ++ ['0'])
      else String.ofList (sign negative ++ (shortest .away mantissa exponent).positional)

/-- The integer nearest to `numerator / denominator`, a half going to the even
one. -/
def nearestEven (numerator denominator : Nat) : Nat :=
  let floor := numerator / denominator
  let rest := numerator % denominator
  if 2 * rest < denominator then floor
  else if denominator < 2 * rest then floor + 1
  else floor + floor % 2

/-- Text of `number / 10 ^ places`. -/
def withPlaces (number places : Nat) : List Char :=
  let ds := digits number
  let padded := zeros (places + 1 - ds.length) ++ ds
  if places = 0 then padded
  else padded.take (padded.length - places) ++ '.' :: padded.drop (padded.length - places)

/-- A double with a fixed number of decimal places. -/
def fixed (places : Nat) (x : Float) : String :=
  match Binary.ofFloat x with
  | .notANumber => "NaN"
  | .infinite negative => String.ofList (sign negative ++ ['i', 'n', 'f'])
  | .finite negative mantissa exponent =>
      let scaled := scaleByTen (scaleByTwo mantissa exponent) places
      String.ofList (sign negative ++ withPlaces (nearestEven scaled.1 scaled.2) places)

/-- Text of a decimal with a point or an exponent, whichever its size asks for. -/
def Scientific.pointed (decimal : Scientific) : List Char :=
  let ds := digits decimal.coefficient
  let point := (ds.length : Int) + decimal.exponent
  if 0 ≤ decimal.exponent && point ≤ 16 then
    decimal.positional ++ ['.', '0']
  else if -5 < point && point ≤ 16 then
    decimal.positional
  else
    let exponent := point - 1
    let mark := 'e' :: sign (exponent < 0) ++ digits exponent.natAbs
    match ds with
    | [d] => d :: mark
    | d :: rest => d :: '.' :: rest ++ mark
    | [] => mark

/-- The text of a finite double in a JSON document. -/
def json (x : Float) : Option String :=
  match Binary.ofFloat x with
  | .notANumber | .infinite _ => none
  | .finite negative mantissa exponent =>
      if mantissa = 0 then some (String.ofList (sign negative ++ ['0', '.', '0']))
      else some (String.ofList (sign negative ++ (shortest .even mantissa exponent).pointed))

end RiskGate.Decimal
