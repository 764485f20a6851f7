import RiskGate.Decimal.Binary

/-!
# The fewest digits that read back

The shortest decimal of a positive double is the decimal with the fewest
significant digits among those that round to the double; of two such decimals
the one nearer to its exact value.  The search tries one digit, then two, and
so on: on each decimal grid only the two neighbours of the exact value can hit
the interval of reals that round to the double.
-/

namespace RiskGate.Decimal

/-- Which of two equally near decimals is taken. -/
inductive Tie where
  | away
  | even
deriving DecidableEq, Repr

/-- `coefficient * 10 ^ exponent`. -/
structure Scientific where
  coefficient : Nat
  exponent : Int
deriving DecidableEq, Repr

/-- The interval of reals that round to `mantissa * 2 ^ exponent`, in units of
a quarter of the last place: its two ends, and whether they belong to it. -/
structure Rounding where
  value : Nat × Nat
  low : Nat × Nat
  high : Nat × Nat
  closed : Bool

/-- The interval that belongs to a double. -/
def Rounding.ofBinary (mantissa : Nat) (exponent : Int) : Rounding where
  value := scaleByTwo (4 * mantissa) (exponent - 2)
  low := scaleByTwo (4 * mantissa - (if Binary.narrowBelow mantissa exponent then 1 else 2))
    (exponent - 2)
  high := scaleByTwo (4 * mantissa + 2) (exponent - 2)
  closed := mantissa % 2 == 0

/-- `a < b` as fractions, or `a ≤ b` when ends count. -/
def below (closed : Bool) (a b : Nat × Nat) : Bool :=
  if closed then a.1 * b.2 ≤ b.1 * a.2 else a.1 * b.2 < b.1 * a.2

/-- The decimal lies in the interval. -/
def Rounding.covers (interval : Rounding) (decimal : Scientific) : Bool :=
  let point := scaleByTen (decimal.coefficient, 1) decimal.exponent
  below interval.closed interval.low point && below interval.closed point interval.high

/-- The decimal with exponent `exponent` that is nearest to the value among
those that round to the double, if there is one. -/
def Rounding.nearestAt (interval : Rounding) (tie : Tie) (exponent : Int) :
    Option Scientific :=
  let scaled := scaleByTen interval.value (-exponent)
  let floor := scaled.1 / scaled.2
  let rest := scaled.1 % scaled.2
  let lower : Scientific := ⟨floor, exponent⟩
  let upper : Scientific := ⟨floor + 1, exponent⟩
  match interval.covers lower && floor != 0, interval.covers upper with
  | false, false => none
  | true, false => some lower
  | false, true => some upper
  | true, true =>
      if 2 * rest < scaled.2 then some lower
      else if scaled.2 < 2 * rest then some upper
      else
        match tie with
        | .away => some upper
        | .even => if floor % 2 == 0 then some lower else some upper

/-- The decimal exponent of the leading digit of a positive fraction, from an
estimate that may be one too large. -/
def leadingExponent (value : Nat × Nat) : Int :=
  let estimate : Int := ((digits value.1).length : Int) - (digits value.2).length
  let point := scaleByTen (1, 1) estimate
  if point.1 * value.2 ≤ value.1 * point.2 then estimate else estimate - 1

/-- Try ever finer decimal grids, at most `count` of them. -/
def Rounding.search (interval : Rounding) (tie : Tie) : Nat → Int → Scientific
  | 0, exponent => ⟨0, exponent⟩
  | count + 1, exponent =>
      match interval.nearestAt tie exponent with
      | some decimal => decimal
      | none => interval.search tie count (exponent - 1)

/-- Drop the zeros at the end of a coefficient; the first argument bounds their
number. -/
def Scientific.trimmed : Nat → Scientific → Scientific
  | 0, decimal => decimal
  | count + 1, decimal =>
      if decimal.coefficient != 0 && decimal.coefficient % 10 == 0 then
        trimmed count ⟨decimal.coefficient / 10, decimal.exponent + 1⟩
      else
        decimal

/-- The shortest decimal of the positive double `mantissa * 2 ^ exponent`. -/
def shortest (tie : Tie) (mantissa : Nat) (exponent : Int) : Scientific :=
  let interval := Rounding.ofBinary mantissa exponent
  (interval.search tie 20 (leadingExponent interval.value + 1)).trimmed 20

end RiskGate.Decimal
