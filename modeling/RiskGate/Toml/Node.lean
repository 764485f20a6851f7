/-!
# Nodes of a document

A TOML document is a tree of nodes.  A table remembers how it came about, since
that decides who may add to it: written inline or under a header, made only
because a path went through it, and made by a dotted key.
-/

namespace RiskGate.Toml

/-- How a table came about. -/
structure Origin where
  /-- Written between braces. -/
  inline : Bool := false
  /-- Made only because a path went through it. -/
  implied : Bool := false
  /-- Made by a dotted key. -/
  dotted : Bool := false
deriving DecidableEq, Repr

/-- A value or a table. -/
inductive Node where
  | string (value : String)
  | integer (value : Int)
  | float (value : Float)
  | boolean (value : Bool)
  /-- A date, a time, or both. -/
  | moment
  | array (items : List Node)
  | table (origin : Origin) (entries : List (String × Node))
  /-- The tables of one double-bracket header, in order. -/
  | tables (rows : List Node)
deriving Inhabited

/-- The entries of a table or the values of an array, ready to be read. -/
abbrev Entries := List (String × Node)

namespace Entries

/-- The node under a key. -/
def find? (key : String) (entries : Entries) : Option Node :=
  (List.find? (·.1 == key) entries).map Prod.snd

/-- Put a node under a key, in the place of the old one if there is one. -/
def put (key : String) (node : Node) : Entries → Entries
  | [] => [(key, node)]
  | (other, old) :: rest =>
      if other == key then (key, node) :: rest else (other, old) :: put key node rest

/-- Remove a key. -/
def remove (key : String) (entries : Entries) : Entries :=
  entries.filter (·.1 != key)

end Entries

end RiskGate.Toml
