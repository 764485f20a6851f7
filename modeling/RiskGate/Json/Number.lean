import RiskGate.Decimal.Reading
import RiskGate.Span

/-!
# JSON numbers

A number without a fraction and an exponent that fits 64 bits is an integer.
Every other number is a double, formed from as many leading digits as fit 64
bits and one multiplication or division by a power of ten; the further digits
of a fraction are dropped.  A double that would be infinite does not exist.
-/

namespace RiskGate.Json

/-- The value of a number. -/
inductive Number where
  | natural (value : Nat)
  /-- `- magnitude`, for a magnitude from 1 to 2^63. -/
  | negative (magnitude : Nat)
  | real (value : Float)

/-- One more digit still fits 64 bits. -/
def fits (significand digit : Nat) : Bool :=
  significand * 10 + digit < UInt64.size

/-- Take digits in; once one does not fit, all further ones are only counted.
Gives the significand, the number of digits left out, and the rest. -/
def takeWhole (significand : Nat) : List Char → Nat × Nat × List Char
  | [] => (significand, 0, [])
  | c :: rest =>
      if c.isDigit then
        let digit := c.toNat - 48
        if fits significand digit then
          takeWhole (significand * 10 + digit) rest
        else
          let left := (c :: rest).takeWhile Char.isDigit
          (significand, left.length, (c :: rest).dropWhile Char.isDigit)
      else (significand, 0, c :: rest)

/-- Take digits of a fraction in; from the first that does not fit, all are
dropped.  Gives the significand, the number of digits taken, and the rest. -/
def takeFraction (significand : Nat) (taken : Nat) : List Char → Nat × Nat × List Char
  | [] => (significand, taken, [])
  | c :: rest =>
      if c.isDigit then
        let digit := c.toNat - 48
        if fits significand digit then
          takeFraction (significand * 10 + digit) (taken + 1) rest
        else (significand, taken, (c :: rest).dropWhile Char.isDigit)
      else (significand, taken, c :: rest)

/-- The double 10^n. -/
def powerOfTen (n : Nat) : Float := Decimal.toFloat 1 n

/-- Scale a double by a power of ten.  The first argument bounds the number of
divisions by 10^308, after a few of which every double is zero. -/
def scale : Nat → Float → Int → Option Float
  | 0, value, _ => some value
  | steps + 1, value, exponent =>
      if exponent.natAbs ≤ 308 then
        if 0 ≤ exponent then
          let scaled := value * powerOfTen exponent.natAbs
          if scaled.isInf then none else some scaled
        else some (value / powerOfTen exponent.natAbs)
      else if value == 0.0 then some value
      else if 0 ≤ exponent then none
      else scale steps (value / powerOfTen 308) (exponent + 308)

/-- The double `± significand * 10 ^ exponent`, if it is finite. -/
def realOf (negative : Bool) (significand : Nat) (exponent : Int) : Option Number :=
  (scale 8 (Span.wordFloat significand) exponent).map fun value =>
    .real (if negative then -value else value)

/-- Read an exponent after its mark, at least one digit. -/
def readExponent (text : List Char) : Option (Int × List Char) :=
  let (negative, body) :=
    match text with
    | '-' :: rest => (true, rest)
    | '+' :: rest => (false, rest)
    | rest => (false, rest)
  let ds := body.takeWhile Char.isDigit
  if ds.isEmpty then none
  else
    let value : Int := Decimal.digitsValue ds
    some (if negative then -value else value, body.dropWhile Char.isDigit)

/-- Read the exponent, if there is one, and form the double. -/
def finishReal (negative : Bool) (significand : Nat) (exponent : Int) (text : List Char) :
    Option (Option Number × List Char) :=
  match text with
  | c :: rest =>
      if c == 'e' || c == 'E' then
        (readExponent rest).map fun (written, rest) =>
          (realOf negative significand (exponent + written), rest)
      else some (realOf negative significand exponent, text)
  | [] => some (realOf negative significand exponent, [])

/-- The number without a fraction and an exponent. -/
def wholeNumber (negative : Bool) (significand : Nat) : Number :=
  if !negative then .natural significand
  else if significand = 0 || UInt64.size / 2 < significand then .real (-(Span.wordFloat significand))
  else .negative significand

/-- Read a number after its sign.  What is read may be no number of a double's
range. -/
def readUnsigned (negative : Bool) (text : List Char) : Option (Option Number × List Char) :=
  match text with
  | [] => none
  | c :: _ =>
      if !c.isDigit then none
      else
        let (significand, left, rest) :=
          if c == '0' then (0, 0, text.drop 1) else takeWhole 0 text
        match rest with
        | '.' :: more =>
            match more with
            | d :: _ =>
                if d.isDigit then
                  let (significand, taken, rest) := takeFraction significand 0 more
                  finishReal negative significand ((left : Int) - taken) rest
                else none
            | [] => none
        | d :: _ =>
            if d.isDigit then none
            else if d == 'e' || d == 'E' then finishReal negative significand left rest
            else if left = 0 then some (some (wholeNumber negative significand), rest)
            else some (realOf negative significand left, rest)
        | [] =>
            if left = 0 then some (some (wholeNumber negative significand), [])
            else some (realOf negative significand left, [])

/-- Read a number. -/
def readNumber (text : List Char) : Option (Option Number × List Char) :=
  match text with
  | '-' :: rest => readUnsigned true rest
  | _ => readUnsigned false text

end RiskGate.Json
