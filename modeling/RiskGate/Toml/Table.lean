import RiskGate.Toml.Node

/-!
# Building tables

A key path leads through tables that exist or are made on the way.  A dotted
key may only add to tables that dotted keys made, a header only to tables that
no header named before, and nothing may be defined twice.
-/

namespace RiskGate.Toml

/-- A table under construction. -/
structure Table where
  origin : Origin := {}
  entries : Entries := []
deriving Inhabited

/-- The table as a node. -/
def Table.node (table : Table) : Node := .table table.origin table.entries

/-- Change the last of a list of rows. -/
def alterLast (change : Node → Option Node) : List Node → Option (List Node)
  | [] => none
  | [row] => (change row).map fun row => [row]
  | row :: rest => (alterLast change rest).map (row :: ·)

/-- The table that a node is, if it is one of the right sort. -/
def Node.asTable (inline : Bool) : Node → Option Table
  | .table origin entries => if origin.inline == inline then some ⟨origin, entries⟩ else none
  | _ => none

/-- Follow a path from a table and change the table at its end.  Tables on the
way are made where they are missing; a path of a dotted key makes dotted tables
and goes through no table that was written out. -/
def Table.alterAt (change : Table → Option Table) (dotted : Bool) :
    List String → Table → Option Table
  | [], table => change table
  | key :: path, table =>
      let inline := table.origin.inline
      let enter (found : Table) : Option Node :=
        (alterAt change dotted path found).map Table.node
      let node :=
        match table.entries.find? key with
        | none => enter ⟨⟨inline, true, dotted⟩, []⟩
        | some (.tables rows) =>
            (alterLast (fun row => row.asTable inline >>= enter) rows).map Node.tables
        | some node =>
            match node.asTable inline with
            | none => none
            | some found =>
                if dotted && !found.origin.implied then none else enter found
      node.map fun node => { table with entries := table.entries.put key node }

/-- Define a key in a table.  The table must have come about by a dotted key
exactly when the key was reached through one. -/
def Table.define (dotted : Bool) (key : String) (node : Node) (table : Table) :
    Option Table :=
  if table.origin.dotted != dotted then none
  else
    match table.entries.find? key with
    | some _ => none
    | none => some { table with entries := table.entries ++ [(key, node)] }

/-- Assign a value to a key path in a table. -/
def Table.assign (path : List String) (node : Node) (table : Table) : Option Table :=
  match path.getLast? with
  | none => none
  | some key =>
      let way := path.dropLast
      table.alterAt (Table.define (!way.isEmpty) key node) (!way.isEmpty) way

/-- Make a table from assignments between braces. -/
def Table.ofPairs (pairs : List (List String × Node)) : Option Table :=
  pairs.foldlM (fun table (path, node) => table.assign path node) ⟨⟨true, false, false⟩, []⟩

end RiskGate.Toml
