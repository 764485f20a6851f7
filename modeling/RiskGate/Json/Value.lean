import RiskGate.Decimal.Text

/-!
# JSON documents and their pretty text

A document is written with two blanks of indentation for each level, one member
or item a line, and empty arrays and objects as a pair of brackets.  A double
that is not finite is written as `null`.
-/

namespace RiskGate.Json

/-- A JSON document. -/
inductive Value where
  | null
  | boolean (value : Bool)
  | integer (value : Int)
  | real (value : Float)
  | string (value : String)
  | array (items : List Value)
  | object (members : List (String × Value))
deriving Inhabited

/-- A hexadecimal digit, in lower case. -/
def lowerHex (n : Nat) : Char :=
  if n < 10 then Char.ofNat (48 + n) else Char.ofNat (87 + n)

/-- One character between the quotes of a string. -/
def escape (c : Char) : List Char :=
  if c == '"' then ['\\', '"']
  else if c == '\\' then ['\\', '\\']
  else if c == '\n' then ['\\', 'n']
  else if c == '\r' then ['\\', 'r']
  else if c == '\t' then ['\\', 't']
  else if c == '\x08' then ['\\', 'b']
  else if c == '\x0c' then ['\\', 'f']
  else if c.toNat < 32 then
    ['\\', 'u', '0', '0', lowerHex (c.toNat / 16), lowerHex (c.toNat % 16)]
  else [c]

/-- A string with its quotes. -/
def quote (text : String) : String :=
  String.ofList ('"' :: text.toList.flatMap escape ++ ['"'])

/-- The break before an item at a level. -/
def lineBreak (level : Nat) : String :=
  "\n" ++ String.ofList (List.replicate (2 * level) ' ')

/-- Lines of a bracketed list at a level. -/
def bracketed (opening closing : String) (level : Nat) : List String → String
  | [] => opening ++ closing
  | items =>
      opening ++ lineBreak (level + 1) ++
        String.intercalate ("," ++ lineBreak (level + 1)) items ++
        lineBreak level ++ closing

mutual

/-- The text of a document that begins at a level. -/
def Value.render (level : Nat) : Value → String
  | .null => "null"
  | .boolean true => "true"
  | .boolean false => "false"
  | .integer value => toString value
  | .real value => (Decimal.json value).getD "null"
  | .string value => quote value
  | .array items => bracketed "[" "]" level (renderItems (level + 1) items)
  | .object members => bracketed "\x7b" "\x7d" level (renderMembers (level + 1) members)

/-- The texts of the items of an array. -/
def renderItems (level : Nat) : List Value → List String
  | [] => []
  | item :: rest => item.render level :: renderItems level rest

/-- The texts of the members of an object. -/
def renderMembers (level : Nat) : List (String × Value) → List String
  | [] => []
  | (name, value) :: rest =>
      (quote name ++ ": " ++ value.render level) :: renderMembers level rest

end

/-- The pretty text of a document. -/
def Value.pretty (value : Value) : String := value.render 0

end RiskGate.Json
