import RiskGate.Decimal.Reading
import RiskGate.Toml.Node

/-!
# The lexical grammar of TOML 1.0

Readers take a text and give what they read and the rest, or nothing when the
text does not begin with what they read.  No reader gives back a rest longer
than its text.
-/

namespace RiskGate.Toml

/-- A blank inside a line. -/
def isSpace (c : Char) : Bool := c == ' ' || c == '\t'

/-- Drop blanks. -/
def skipSpace (text : List Char) : List Char := text.dropWhile isSpace

/-- Drop one line end, if there is one. -/
def readNewline : List Char → Option (List Char)
  | '\n' :: rest => some rest
  | '\r' :: '\n' :: rest => some rest
  | _ => none

/-- A character that may stand in a comment. -/
def isCommentChar (c : Char) : Bool :=
  c == '\t' || (' ' ≤ c && c.toNat ≠ 0x7F)

/-- Drop a comment, if there is one. -/
def skipComment : List Char → List Char
  | '#' :: rest => rest.dropWhile isCommentChar
  | text => text

/-- Drop blanks and a comment, and then a line end unless the text ends. -/
def readLineEnd (text : List Char) : Option (List Char) :=
  match skipComment (skipSpace text) with
  | [] => some []
  | rest => readNewline rest

/-- Drop blanks, comments and line ends; the first argument bounds their number. -/
def skipLines : Nat → List Char → List Char
  | 0, text => text
  | count + 1, text =>
      let text := skipComment (skipSpace text)
      match readNewline text with
      | some rest => skipLines count rest
      | none => text

/-! ## Strings -/

/-- A character that may stand between single quotes. -/
def isLiteralChar (c : Char) : Bool :=
  isCommentChar c && c != '\''

/-- A character that may stand for itself between double quotes. -/
def isBasicChar (c : Char) : Bool :=
  isCommentChar c && c != '"' && c != '\\'

/-- The value of a hexadecimal digit. -/
def hexValue (c : Char) : Option Nat :=
  if c.isDigit then some (c.toNat - 48)
  else if 'a' ≤ c && c ≤ 'f' then some (c.toNat - 87)
  else if 'A' ≤ c && c ≤ 'F' then some (c.toNat - 55)
  else none

/-- Read a number of exactly `width` hexadecimal digits, after those that make
up `value`. -/
def readHex : Nat → Nat → List Char → Option (Nat × List Char)
  | 0, value, text => some (value, text)
  | width + 1, value, c :: rest =>
      match hexValue c with
      | some digit => readHex width (value * 16 + digit) rest
      | none => none
  | _ + 1, _, [] => none

/-- The character with a code, surrogates and codes beyond the last excluded. -/
def charOfCode (code : Nat) : Option Char :=
  if code.isValidChar then some (Char.ofNat code) else none

/-- Read the part of an escape after its backslash. -/
def readEscape : List Char → Option (Char × List Char)
  | 'b' :: rest => some ('\x08', rest)
  | 't' :: rest => some ('\t', rest)
  | 'n' :: rest => some ('\n', rest)
  | 'f' :: rest => some ('\x0c', rest)
  | 'r' :: rest => some ('\r', rest)
  | '"' :: rest => some ('"', rest)
  | '\\' :: rest => some ('\\', rest)
  | 'u' :: rest => do
      let (code, rest) ← readHex 4 0 rest
      return (← charOfCode code, rest)
  | 'U' :: rest => do
      let (code, rest) ← readHex 8 0 rest
      return (← charOfCode code, rest)
  | _ => none

/-- Read a string between double quotes, after its opening quote.  The first
argument bounds the number of characters. -/
def readBasic : Nat → List Char → List Char → Option (String × List Char)
  | 0, _, _ => none
  | _, _, [] => none
  | count + 1, done, c :: rest =>
      if c == '"' then some (String.ofList done.reverse, rest)
      else if c == '\\' then
        match readEscape rest with
        | some (escaped, rest) => readBasic count (escaped :: done) rest
        | none => none
      else if isBasicChar c then readBasic count (c :: done) rest
      else none

/-- Read a string between single quotes, after its opening quote. -/
def readLiteral (text : List Char) : Option (String × List Char) :=
  match text.dropWhile isLiteralChar with
  | '\'' :: rest => some (String.ofList (text.takeWhile isLiteralChar), rest)
  | _ => none

/-- Drop blanks and line ends; the first argument bounds their number. -/
def skipBlankLines : Nat → List Char → List Char
  | 0, text => text
  | count + 1, text =>
      let text := skipSpace text
      match readNewline text with
      | some rest => skipBlankLines count rest
      | none => text

/-- Close a multi-line string: of three to five quotes in a row, the last three
end it and the others belong to it. -/
def closeMultiline (quote : Char) (done text : List Char) : Option (String × List Char) :=
  let run := text.takeWhile (· == quote)
  if run.length < 3 then none
  else
    let extra := min (run.length - 3) 2
    some (String.ofList (done.reverse ++ List.replicate extra quote), text.drop (extra + 3))

/-- Read a multi-line string between triple double quotes, after its opening.
The first argument bounds the number of characters. -/
def readMultilineBasic : Nat → List Char → List Char → Option (String × List Char)
  | 0, _, _ => none
  | _, _, [] => none
  | count + 1, done, c :: rest =>
      if c == '"' then
        match closeMultiline '"' done (c :: rest) with
        | some result => some result
        | none => readMultilineBasic count (c :: done) rest
      else if c == '\\' then
        match readNewline (skipSpace rest) with
        | some more => readMultilineBasic count done (skipBlankLines more.length more)
        | none =>
            match readEscape rest with
            | some (escaped, rest) => readMultilineBasic count (escaped :: done) rest
            | none => none
      else
        match readNewline (c :: rest) with
        | some more => readMultilineBasic count ('\n' :: done) more
        | none => if isBasicChar c then readMultilineBasic count (c :: done) rest else none

/-- Read a multi-line string between triple single quotes, after its opening. -/
def readMultilineLiteral : Nat → List Char → List Char → Option (String × List Char)
  | 0, _, _ => none
  | _, _, [] => none
  | count + 1, done, c :: rest =>
      if c == '\'' then
        match closeMultiline '\'' done (c :: rest) with
        | some result => some result
        | none => readMultilineLiteral count (c :: done) rest
      else
        match readNewline (c :: rest) with
        | some more => readMultilineLiteral count ('\n' :: done) more
        | none => if isLiteralChar c then readMultilineLiteral count (c :: done) rest else none

/-- Drop the line end that directly follows the opening of a multi-line string. -/
def skipFirstNewline (text : List Char) : List Char :=
  (readNewline text).getD text

/-- Read a string of any of the four sorts. -/
def readString (text : List Char) : Option (String × List Char) :=
  match text with
  | '"' :: '"' :: '"' :: rest =>
      let body := skipFirstNewline rest
      readMultilineBasic (body.length + 1) [] body
  | '\'' :: '\'' :: '\'' :: rest =>
      let body := skipFirstNewline rest
      readMultilineLiteral (body.length + 1) [] body
  | '"' :: rest => readBasic (rest.length + 1) [] rest
  | '\'' :: rest => readLiteral rest
  | _ => none

/-! ## Keys -/

/-- A character of a key without quotes. -/
def isBareChar (c : Char) : Bool :=
  c.isAlphanum || c == '_' || c == '-'

/-- Read one part of a key. -/
def readSimpleKey (text : List Char) : Option (String × List Char) :=
  match text with
  | '"' :: rest => readBasic (rest.length + 1) [] rest
  | '\'' :: rest => readLiteral rest
  | _ =>
      let bare := text.takeWhile isBareChar
      if bare.isEmpty then none else some (String.ofList bare, text.dropWhile isBareChar)

/-- The depth at which nesting, of values or of keys, is refused. -/
def depthLimit : Nat := 80

/-- Read the parts of a key, divided by dots; the first argument bounds their
number. -/
def readKeyParts : Nat → List Char → Option (List String × List Char)
  | 0, _ => none
  | count + 1, text => do
      let (part, rest) ← readSimpleKey (skipSpace text)
      match skipSpace rest with
      | '.' :: more => do
          let (parts, rest) ← readKeyParts count more
          return (part :: parts, rest)
      | rest => some ([part], rest)

/-- Read a key of fewer parts than the depth limit. -/
def readKey (text : List Char) : Option (List String × List Char) :=
  readKeyParts (depthLimit - 1) text

/-! ## Numbers, truth values and moments -/

/-- Digits among which single underscores may stand, each between two digits. -/
def readDigitTail (isDigit : Char → Bool) : List Char → Option (List Char × List Char)
  | '_' :: c :: rest =>
      if isDigit c then
        (readDigitTail isDigit rest).map fun (ds, rest) => (c :: ds, rest)
      else none
  | ['_'] => none
  | c :: rest =>
      if isDigit c then
        (readDigitTail isDigit rest).map fun (ds, rest) => (c :: ds, rest)
      else some ([], c :: rest)
  | [] => some ([], [])

/-- At least one digit, with underscores between digits. -/
def readDigits (isDigit : Char → Bool) : List Char → Option (List Char × List Char)
  | c :: rest =>
      if isDigit c then
        (readDigitTail isDigit rest).map fun (ds, rest) => (c :: ds, rest)
      else none
  | [] => none

/-- A sign, and whether it is a minus. -/
def readSign : List Char → Bool × List Char
  | '-' :: rest => (true, rest)
  | '+' :: rest => (false, rest)
  | text => (false, text)

/-- Digits of a decimal integer, which has no zeros in front. -/
def readWhole (text : List Char) : Option (List Char × List Char) :=
  match text with
  | '0' :: rest => some (['0'], rest)
  | _ => readDigits Char.isDigit text

/-- Read the exponent of a float, if there is one. -/
def readExponentPart (text : List Char) : Option (Int × List Char) :=
  match text with
  | c :: rest =>
      if c == 'e' || c == 'E' then do
        let (negative, rest) := readSign rest
        let (ds, rest) ← readDigits Char.isDigit rest
        let value : Int := Decimal.digitsValue ds
        return (if negative then -value else value, rest)
      else some (0, text)
  | [] => some (0, [])

/-- A float as a node.  One that exceeds the range upwards is refused. -/
def floatNode (negative : Bool) (written : Decimal.Written) (rest : List Char) : Option (Node × List Char) :=
  let magnitude := written.toFloat
  let value := if negative then -magnitude else magnitude
  if value == 1.0 / 0.0 then none else some (.float value, rest)

/-- An integer as a node, if it fits 64 bits. -/
def integerNode (value : Int) (rest : List Char) : Option (Node × List Char) :=
  if Int64.minValue.toInt ≤ value && value ≤ Int64.maxValue.toInt then some (.integer value, rest) else none

/-- Read a number without a radix mark: an integer, or a float if a fraction or
an exponent follows its whole part. -/
def readDecimalNumber (text : List Char) : Option (Node × List Char) := do
  let (negative, body) := readSign text
  match body with
  | 'i' :: 'n' :: 'f' :: rest =>
      some (.float (if negative then -(1.0 / 0.0) else 1.0 / 0.0), rest)
  | 'n' :: 'a' :: 'n' :: rest => some (.float (0.0 / 0.0), rest)
  | _ =>
    let (whole, rest) ← readWhole body
    match rest with
    | '.' :: more => do
        let (fraction, rest) ← readDigits Char.isDigit more
        let (exponent, rest) ← readExponentPart rest
        floatNode negative ⟨whole, fraction, exponent⟩ rest
    | c :: _ =>
        if c == 'e' || c == 'E' then do
          let (exponent, rest) ← readExponentPart rest
          floatNode negative ⟨whole, [], exponent⟩ rest
        else
          let value : Int := Decimal.digitsValue whole
          integerNode (if negative then -value else value) rest
    | [] =>
        let value : Int := Decimal.digitsValue whole
        integerNode (if negative then -value else value) rest

/-- Read digits of a radix as an integer. -/
def readRadix (radix : Nat) (isDigit : Char → Bool) (text : List Char) : Option (Node × List Char) := do
  let (ds, rest) ← readDigits isDigit text
  integerNode (ds.foldl (fun value c => value * radix + (hexValue c).getD 0) 0 : Nat) rest

/-- Read a number. -/
def readNumber (text : List Char) : Option (Node × List Char) :=
  match text with
  | '0' :: 'x' :: rest => readRadix 16 (fun c => (hexValue c).isSome) rest
  | '0' :: 'o' :: rest => readRadix 8 (fun c => '0' ≤ c && c ≤ '7') rest
  | '0' :: 'b' :: rest => readRadix 2 (fun c => c == '0' || c == '1') rest
  | _ => readDecimalNumber text

/-- Read a number of exactly `width` decimal digits between two bounds. -/
def readField (width low high : Nat) (text : List Char) : Option (Nat × List Char) :=
  let ds := text.take width
  if ds.length = width && ds.all Char.isDigit && low ≤ Decimal.digitsValue ds &&
      Decimal.digitsValue ds ≤ high then
    some (Decimal.digitsValue ds, text.drop width)
  else none

/-- Drop a given character. -/
def readMark (mark : Char) : List Char → Option (List Char)
  | c :: rest => if c = mark then some rest else none
  | [] => none

/-- The number of days in a month. -/
def daysInMonth (year month : Nat) : Nat :=
  if month = 2 then
    if year % 4 = 0 && (year % 100 ≠ 0 || year % 400 = 0) then 29 else 28
  else if month = 4 || month = 6 || month = 9 || month = 11 then 30
  else 31

/-- Drop a date. -/
def readDate (text : List Char) : Option (List Char) := do
  let (year, text) ← readField 4 0 9999 text
  let text ← readMark '-' text
  let (month, text) ← readField 2 1 12 text
  let text ← readMark '-' text
  let (_, text) ← readField 2 1 (daysInMonth year month) text
  return text

/-- Drop a time of day, with or without a fraction of a second. -/
def readTime (text : List Char) : Option (List Char) := do
  let (_, text) ← readField 2 0 23 text
  let text ← readMark ':' text
  let (_, text) ← readField 2 0 59 text
  let text ← readMark ':' text
  let (_, text) ← readField 2 0 60 text
  match text with
  | '.' :: rest =>
      if (rest.takeWhile Char.isDigit).isEmpty then some text
      else some (rest.dropWhile Char.isDigit)
  | _ => some text

/-- Drop a distance from universal time, if there is one. -/
def skipOffset (text : List Char) : Option (List Char) :=
  match text with
  | c :: rest =>
      if c == 'Z' || c == 'z' then some rest
      else if c == '+' || c == '-' then do
        let (_, rest) ← readField 2 0 23 rest
        let rest ← readMark ':' rest
        let (_, rest) ← readField 2 0 59 rest
        return rest
      else some text
  | [] => some []

/-- Read a date with or without a time, or a time. -/
def readMoment (text : List Char) : Option (Node × List Char) :=
  match readDate text with
  | some rest =>
      let timed :=
        match rest with
        | c :: more =>
            if c == 'T' || c == 't' || c == ' ' then readTime more >>= skipOffset else none
        | [] => none
      some (.moment, timed.getD rest)
  | none => (readTime text).map fun rest => (.moment, rest)

/-- Read a value that is neither a string nor made of other values. -/
def readPlain (text : List Char) : Option (Node × List Char) :=
  match text with
  | 't' :: 'r' :: 'u' :: 'e' :: rest => some (.boolean true, rest)
  | 'f' :: 'a' :: 'l' :: 's' :: 'e' :: rest => some (.boolean false, rest)
  | _ =>
      match readMoment text with
      | some result => some result
      | none => readNumber text

end RiskGate.Toml
