/-!
# Doubles taken apart

A double is not a number, an infinity, or `± mantissa * 2 ^ exponent` exactly.
Everything that prints a double starts from this form, so no rounding of the
machine enters the text.
-/

namespace RiskGate.Decimal

/-- The exact value of a double. -/
inductive Binary where
  | notANumber
  | infinite (negative : Bool)
  | finite (negative : Bool) (mantissa : Nat) (exponent : Int)
deriving DecidableEq, Repr

namespace Binary

/-- Read the three fields of the 64-bit pattern. -/
def ofBits (bits : UInt64) : Binary :=
  let word : Nat := bits.toNat
  let negative := Nat.pow 2 63 ≤ word
  let biased : Nat := word / Nat.pow 2 52 % Nat.pow 2 11
  let fraction : Nat := word % Nat.pow 2 52
  if biased = 2047 then
    if fraction = 0 then infinite negative else notANumber
  else if biased = 0 then
    finite negative fraction (-1074)
  else
    finite negative (Nat.pow 2 52 + fraction) ((biased : Int) - 1075)

/-- The exact value of a double. -/
def ofFloat (x : Float) : Binary :=
  ofBits x.toBits

/-- The double has no neighbour below at the usual distance: its mantissa is
the least normal one and a smaller exponent exists. -/
def narrowBelow (mantissa : Nat) (exponent : Int) : Bool :=
  mantissa == Nat.pow 2 52 && -1074 < exponent

end Binary

/-- `number * 2 ^ exponent` as a fraction of natural numbers. -/
def scaleByTwo (number : Nat) (exponent : Int) : Nat × Nat :=
  if 0 ≤ exponent then (number * Nat.pow 2 exponent.toNat, 1)
  else (number, Nat.pow 2 (-exponent).toNat)

/-- `fraction * 10 ^ exponent`. -/
def scaleByTen (fraction : Nat × Nat) (exponent : Int) : Nat × Nat :=
  if 0 ≤ exponent then (fraction.1 * Nat.pow 10 exponent.toNat, fraction.2)
  else (fraction.1, fraction.2 * Nat.pow 10 (-exponent).toNat)

/-- Decimal digits of a natural number. -/
def digits (n : Nat) : List Char :=
  Nat.toDigits 10 n

end RiskGate.Decimal
