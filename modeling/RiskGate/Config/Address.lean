import RiskGate.Decimal.Reading

/-!
# Socket addresses

An address is an IPv4 address or a bracketed IPv6 address, a colon and a port.

* An IPv4 address has four decimal parts below 256, of at most three digits and
  without leading zeros.
* An IPv6 address has eight groups of at most four hexadecimal digits; the last
  two may be written as an IPv4 address, and one run of zero groups may be
  written as two colons.  A decimal scope may follow after a percent sign.
* A port is a decimal number below 65536, leading zeros allowed.

Readers take a text and give the rest of it.
-/

namespace RiskGate.Config.Address

/-- Read one character. -/
def readChar (c : Char) : List Char → Option (List Char)
  | d :: rest => if d = c then some rest else none
  | [] => none

/-- Read a decimal number below a bound, all digits that are there. -/
def readDecimal (bound : Nat) (text : List Char) : Option (List Char) :=
  let ds := text.takeWhile Char.isDigit
  if ds.isEmpty then none
  else if Decimal.digitsValue ds < bound then some (text.dropWhile Char.isDigit)
  else none

/-- Read one part of an IPv4 address. -/
def readOctet (text : List Char) : Option (List Char) :=
  let ds := text.takeWhile Char.isDigit
  if 3 < ds.length || (1 < ds.length && ds.head? == some '0') then none
  else readDecimal 256 text

/-- Read an IPv4 address. -/
def readIPv4 (text : List Char) : Option (List Char) := do
  let text ← readOctet text
  let text ← readChar '.' text
  let text ← readOctet text
  let text ← readChar '.' text
  let text ← readOctet text
  let text ← readChar '.' text
  readOctet text

/-- A hexadecimal digit of either case. -/
def isHexDigit (c : Char) : Bool :=
  c.isDigit || ('a' ≤ c && c ≤ 'f') || ('A' ≤ c && c ≤ 'F')

/-- Read a group of an IPv6 address: one to four hexadecimal digits. -/
def readGroup (text : List Char) : Option (List Char) :=
  let ds := text.takeWhile isHexDigit
  if ds.isEmpty || 4 < ds.length then none else some (text.dropWhile isHexDigit)

/-- Read up to `limit` groups divided by colons, a colon coming first when
`index` is not zero; an IPv4 address may stand for the last two groups that
fit.  Gives the number of groups read, whether an IPv4 address ended them, and
the rest. -/
def readGroups (index : Nat) : Nat → List Char → Nat × Bool × List Char
  | 0, text => (index, false, text)
  | limit + 1, text =>
      let opened := if index = 0 then some text else readChar ':' text
      match opened with
      | none => (index, false, text)
      | some body =>
          let embedded := if 0 < limit then readIPv4 body else none
          match embedded with
          | some rest => (index + 2, true, rest)
          | none =>
              match readGroup body with
              | some rest => readGroups (index + 1) limit rest
              | none => (index, false, text)

/-- Read an IPv6 address. -/
def readIPv6 (text : List Char) : Option (List Char) :=
  let (head, embedded, rest) := readGroups 0 8 text
  if head = 8 then some rest
  else if embedded then none
  else do
    let rest ← readChar ':' rest
    let rest ← readChar ':' rest
    let (_, _, rest) := readGroups 0 (8 - (head + 1)) rest
    some rest

/-- Read a colon and a port. -/
def readPort (text : List Char) : Option (List Char) := do
  let text ← readChar ':' text
  readDecimal 65536 text

/-- Read a scope, if a percent sign announces one. -/
def readScope (text : List Char) : Option (List Char) :=
  match text with
  | '%' :: rest => readDecimal UInt32.size rest
  | _ => some text

/-- The text is an IPv4 address with a port. -/
def isV4 (text : List Char) : Bool :=
  match readIPv4 text >>= readPort with
  | some [] => true
  | _ => false

/-- The text is a bracketed IPv6 address with a port. -/
def isV6 (text : List Char) : Bool :=
  match readChar '[' text >>= readIPv6 >>= readScope >>= readChar ']' >>= readPort with
  | some [] => true
  | _ => false

/-- The text is a socket address. -/
def isValid (text : String) : Bool :=
  isV4 text.toList || isV6 text.toList

end RiskGate.Config.Address
