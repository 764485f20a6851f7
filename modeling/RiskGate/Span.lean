import RiskGate.Decimal.Binary

/-!
# Spans of time

A span is a whole number of nanoseconds.  It is written in the largest of the
units s, ms, µs and ns that leaves a whole part, without zeros at the end of
the fraction, and it counts as seconds in a double when rates are formed.
-/

namespace RiskGate

/-- A span of time in nanoseconds. -/
structure Span where
  nanos : Nat
deriving DecidableEq, Repr, Inhabited

namespace Span

/-- Nanoseconds in a second. -/
def perSecond : Nat := 1000000000

/-- Nanoseconds in a millisecond. -/
def perMilli : Nat := 1000000

def ofSecs (secs : Nat) : Span := ⟨secs * perSecond⟩

def ofMillis (millis : Nat) : Span := ⟨millis * perMilli⟩

/-- The longest span: 2^64 seconds less a nanosecond. -/
def longest : Span := ⟨UInt64.size * perSecond - 1⟩

/-- Whole seconds. -/
def secs (span : Span) : Nat := span.nanos / perSecond

/-- Nanoseconds beyond the whole seconds. -/
def subsecNanos (span : Span) : Nat := span.nanos % perSecond

/-- Whole milliseconds. -/
def millis (span : Span) : Nat := span.nanos / perMilli

/-- Milliseconds, a started one counting as a whole one.  Timers fire on whole
milliseconds, and never early. -/
def timerMillis (span : Span) : Nat := (span.nanos + (perMilli - 1)) / perMilli

/-- The shorter of two spans. -/
def shorter (a b : Span) : Span := if a.nanos ≤ b.nanos then a else b

/-- The longer of two spans. -/
def longer (a b : Span) : Span := if a.nanos ≤ b.nanos then b else a

/-- `count` times the span, the longest span where the product exceeds it. -/
def times (span : Span) (count : Nat) : Span :=
  shorter ⟨span.nanos * count⟩ longest

/-- A natural number below 2^64 as the nearest double. -/
def wordFloat (n : Nat) : Float := n.toUInt64.toFloat

/-- Seconds as a double: the whole seconds plus the fraction. -/
def seconds (span : Span) : Float :=
  wordFloat span.secs + wordFloat span.subsecNanos / 1000000000.0

/-- Milliseconds as a double. -/
def floatMillis (span : Span) : Float :=
  span.seconds * 1000.0

/-- Text of `nanos` in a unit of `10 ^ places` nanoseconds. -/
def inUnit (nanos places : Nat) : List Char :=
  let whole := Decimal.digits (nanos / Nat.pow 10 places)
  let rest := Decimal.digits (nanos % Nat.pow 10 places)
  let fraction :=
    ((List.replicate (places - rest.length) '0' ++ rest).reverse.dropWhile (· == '0')).reverse
  if places = 0 || fraction.isEmpty then whole else whole ++ '.' :: fraction

/-- The text of a span. -/
def text (span : Span) : String :=
  let n := span.nanos
  if perSecond ≤ n then String.ofList (inUnit n 9) ++ "s"
  else if 1000000 ≤ n then String.ofList (inUnit n 6) ++ "ms"
  else if 1000 ≤ n then String.ofList (inUnit n 3) ++ "µs"
  else String.ofList (inUnit n 0) ++ "ns"

end Span

end RiskGate
