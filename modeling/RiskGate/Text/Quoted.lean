import RiskGate.Text.NonspacingMark
import RiskGate.Text.Unprintable

/-!
# Quoted text

The quoted form of a text stands between double quotes.  Inside, a backslash
opens an escape: `\0`, `\t`, `\r`, `\n`, `\\` and `\"` have names of their own,
and a character that cannot be read on its own is written `\u` with its
hexadecimal code in braces.  Every other character stands for itself, so a
quote inside always follows a backslash and the form ends where it says.
-/

namespace RiskGate.Text

/-- A hexadecimal digit, in lower case. -/
def hexDigit (n : Nat) : Char :=
  if n < 10 then Char.ofNat (48 + n) else Char.ofNat (87 + n)

/-- Hexadecimal digits of a number below `16 ^ width`, at least one of them. -/
def hexDigits : Nat → Nat → List Char
  | 0, n => [hexDigit (n % 16)]
  | width + 1, n =>
      if n < 16 then [hexDigit n] else hexDigits width (n / 16) ++ [hexDigit (n % 16)]

/-- The character stands for itself inside quotes. -/
def isPlain (c : Char) : Bool :=
  c == ' ' || (!nonspacingMark.contains c && !unprintable.contains c)

/-- The quoted form of one character. -/
def escapeChar (c : Char) : List Char :=
  if c == '\x00' then ['\\', '0']
  else if c == '\t' then ['\\', 't']
  else if c == '\r' then ['\\', 'r']
  else if c == '\n' then ['\\', 'n']
  else if c == '\\' then ['\\', '\\']
  else if c == '"' then ['\\', '"']
  else if isPlain c then [c]
  else ['\\', 'u', '\x7b'] ++ hexDigits 6 c.toNat ++ ['\x7d']

/-- The quoted form of a text. -/
def quoted (text : List Char) : List Char :=
  '"' :: text.flatMap escapeChar ++ ['"']

end RiskGate.Text
