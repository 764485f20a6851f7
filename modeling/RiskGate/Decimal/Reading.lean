import RiskGate.Decimal.Shortest

/-!
# Reading decimals

The double nearest to a decimal, and the grammar of decimals with optional
fraction and exponent.  A decimal far outside the range of doubles is decided
by its size alone, so no text makes the arithmetic large.
-/

namespace RiskGate.Decimal

/-- Value of a run of decimal digits. -/
def digitsValue (ds : List Char) : Nat :=
  ds.foldl (fun value d => value * 10 + (d.toNat - 48)) 0

/-- The double nearest to `coefficient * 10 ^ exponent`, which is infinite when
the decimal exceeds the range. -/
def toFloat (coefficient : Nat) (exponent : Int) : Float :=
  if coefficient = 0 then 0.0
  else
    let size := ((digits coefficient).length : Int) + exponent
    if 400 < size then 1.0 / 0.0
    else if size < -400 then 0.0
    else if 0 ≤ exponent then Float.ofScientific coefficient false exponent.toNat
    else Float.ofScientific coefficient true (-exponent).toNat

/-- The parts of a written decimal: digits before the point, digits after it,
and the written exponent. -/
structure Written where
  whole : List Char
  fraction : List Char
  exponent : Int

/-- The double nearest to a written decimal. -/
def Written.toFloat (written : Written) : Float :=
  Decimal.toFloat (digitsValue (written.whole ++ written.fraction))
    (written.exponent - written.fraction.length)

/-- Read an optional sign and at least one digit, which must be all there is. -/
def readExponent (text : List Char) : Option Int :=
  let (negative, ds) :=
    match text with
    | '-' :: rest => (true, rest)
    | '+' :: rest => (false, rest)
    | rest => (false, rest)
  if ds.isEmpty || !ds.all Char.isDigit then none
  else
    let value : Int := digitsValue ds
    some (if negative then -value else value)

/-- Read an unsigned decimal: digits with at most one point among them, at
least one digit in all, and an optional exponent. -/
def readUnsigned (text : List Char) : Option Written :=
  let whole := text.takeWhile Char.isDigit
  let afterWhole := text.dropWhile Char.isDigit
  let (fraction, rest) :=
    match afterWhole with
    | '.' :: more => (more.takeWhile Char.isDigit, more.dropWhile Char.isDigit)
    | more => ([], more)
  if whole.isEmpty && fraction.isEmpty then none
  else
    match rest with
    | [] => some ⟨whole, fraction, 0⟩
    | c :: more =>
        if c == 'e' || c == 'E' then
          (readExponent more).map fun exponent => ⟨whole, fraction, exponent⟩
        else
          none

/-- Read a double as a command line spells it: an optional sign, then a
decimal, or one of the words for the values that are not finite, in any case. -/
def readFloat (text : List Char) : Option Float :=
  let (negative, body) :=
    match text with
    | '-' :: rest => (true, rest)
    | '+' :: rest => (false, rest)
    | rest => (false, rest)
  let word := body.map Char.toLower
  let magnitude :=
    if word == ['n', 'a', 'n'] then some (0.0 / 0.0)
    else if word == ['i', 'n', 'f'] || word == ['i', 'n', 'f', 'i', 'n', 'i', 't', 'y'] then
      some (1.0 / 0.0)
    else (readUnsigned body).map Written.toFloat
  magnitude.map fun value => if negative then -value else value

/-- Read a natural number below a bound: an optional plus sign and digits. -/
def readNat (bound : Nat) (text : List Char) : Option Nat :=
  let ds :=
    match text with
    | '+' :: rest => rest
    | rest => rest
  if ds.isEmpty || !ds.all Char.isDigit then none
  else if digitsValue ds < bound then some (digitsValue ds) else none

end RiskGate.Decimal
