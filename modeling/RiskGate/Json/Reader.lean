import RiskGate.Json.Number

/-!
# Reading JSON

A text is read as a tree that keeps what a later use may refuse: a number
outside the range of doubles, and a string or a name of a member that holds half
of a surrogate pair.  Where such a value is not used it does no harm.
-/

namespace RiskGate.Json

/-- A value as it was read. -/
inductive Tree where
  | null
  | boolean (value : Bool)
  | number (value : Option Number)
  | string (value : Option String)
  | array (items : List Tree)
  | object (members : List (Option String × Tree))
deriving Inhabited

/-- Drop blanks, tabs and line ends. -/
def skipBlanks (text : List Char) : List Char :=
  text.dropWhile fun c => c == ' ' || c == '\n' || c == '\t' || c == '\r'

/-- The value of a hexadecimal digit. -/
def hexDigitValue (c : Char) : Option Nat :=
  if c.isDigit then some (c.toNat - 48)
  else if 'a' ≤ c && c ≤ 'f' then some (c.toNat - 87)
  else if 'A' ≤ c && c ≤ 'F' then some (c.toNat - 55)
  else none

/-- Read four hexadecimal digits. -/
def readCode : List Char → Option (Nat × List Char)
  | a :: b :: c :: d :: rest => do
      let a ← hexDigitValue a
      let b ← hexDigitValue b
      let c ← hexDigitValue c
      let d ← hexDigitValue d
      return (((a * 16 + b) * 16 + c) * 16 + d, rest)
  | _ => none

/-- The first half of a surrogate pair. -/
def isLead (code : Nat) : Bool := 0xD800 ≤ code && code ≤ 0xDBFF

/-- The second half of a surrogate pair. -/
def isTrail (code : Nat) : Bool := 0xDC00 ≤ code && code ≤ 0xDFFF

/-- The character after a `\u`, and the rest; no character for half a pair. -/
def readUnicode (text : List Char) : Option (Option Char × List Char) := do
  let (code, rest) ← readCode text
  if isLead code then
    match rest with
    | '\\' :: 'u' :: more => do
        let (second, after) ← readCode more
        if isTrail second then
          return (some (Char.ofNat (0x10000 + (code - 0xD800) * 0x400 + (second - 0xDC00))), after)
        else
          return (none, rest)
    | _ => return (none, rest)
  else if isTrail code then return (none, rest)
  else return (some (Char.ofNat code), rest)

/-- The character that a one-letter escape stands for. -/
def namedEscape : Char → Option Char
  | '"' => some '"'
  | '\\' => some '\\'
  | '/' => some '/'
  | 'b' => some '\x08'
  | 'f' => some '\x0c'
  | 'n' => some '\n'
  | 'r' => some '\r'
  | 't' => some '\t'
  | _ => none

/-- Add a character to what was read so far, if all of that is sound. -/
def extend (done : Option (List Char)) (c : Option Char) : Option (List Char) :=
  match done, c with
  | some done, some c => some (c :: done)
  | _, _ => none

/-- Read a string after its opening quote; `done` holds its characters so far,
backwards.  The first argument bounds the number of characters. -/
def readString : Nat → Option (List Char) → List Char → Option (Option String × List Char)
  | 0, _, _ => none
  | _, _, [] => none
  | count + 1, done, c :: rest =>
      if c == '"' then some (done.map fun cs => String.ofList cs.reverse, rest)
      else if c == '\\' then
        match rest with
        | 'u' :: more =>
            match readUnicode more with
            | some (c, rest) => readString count (extend done c) rest
            | none => none
        | d :: more =>
            match namedEscape d with
            | some c => readString count (extend done (some c)) more
            | none => none
        | [] => none
      else if c.toNat < 32 then none
      else readString count (extend done (some c)) rest

/-- Read the items of an array after its opening bracket or a comma. -/
def readItems (readTree : List Char → Option (Tree × List Char)) :
    Nat → List Char → Option (List Tree × List Char)
  | 0, _ => none
  | count + 1, text => do
      let (item, rest) ← readTree text
      match skipBlanks rest with
      | ']' :: rest => return ([item], rest)
      | ',' :: rest => do
          let (items, rest) ← readItems readTree count rest
          return (item :: items, rest)
      | _ => none

/-- Read the members of an object after its opening brace or a comma. -/
def readMembers (readTree : List Char → Option (Tree × List Char)) :
    Nat → List Char → Option (List (Option String × Tree) × List Char)
  | 0, _ => none
  | count + 1, text =>
      match skipBlanks text with
      | '"' :: rest => do
          let (name, rest) ← readString (rest.length + 1) (some []) rest
          match skipBlanks rest with
          | ':' :: rest => do
              let (value, rest) ← readTree rest
              match skipBlanks rest with
              | '\x7d' :: rest => return ([(name, value)], rest)
              | ',' :: rest => do
                  let (members, rest) ← readMembers readTree count rest
                  return ((name, value) :: members, rest)
              | _ => none
          | _ => none
      | _ => none

/-- Read a value; the first argument bounds the nesting. -/
def readTree : Nat → List Char → Option (Tree × List Char)
  | 0, _ => none
  | depth + 1, text =>
      match skipBlanks text with
      | '[' :: rest =>
          match skipBlanks rest with
          | ']' :: rest => some (.array [], rest)
          | rest =>
              (readItems (readTree depth) (rest.length + 1) rest).map fun (items, rest) =>
                (.array items, rest)
      | '\x7b' :: rest =>
          match skipBlanks rest with
          | '\x7d' :: rest => some (.object [], rest)
          | rest =>
              (readMembers (readTree depth) (rest.length + 1) rest).map fun (members, rest) =>
                (.object members, rest)
      | '"' :: rest =>
          (readString (rest.length + 1) (some []) rest).map fun (value, rest) =>
            (.string value, rest)
      | 'n' :: 'u' :: 'l' :: 'l' :: rest => some (.null, rest)
      | 't' :: 'r' :: 'u' :: 'e' :: rest => some (.boolean true, rest)
      | 'f' :: 'a' :: 'l' :: 's' :: 'e' :: rest => some (.boolean false, rest)
      | rest => (readNumber rest).map fun (value, rest) => (.number value, rest)

/-- Read a text that holds one value and nothing else. -/
def readText (text : String) : Option Tree :=
  match readTree (text.toList.length + 1) text.toList with
  | some (tree, rest) => if (skipBlanks rest).isEmpty then some tree else none
  | none => none

end RiskGate.Json
