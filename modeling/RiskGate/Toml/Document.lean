import RiskGate.Toml.Lexical
import RiskGate.Toml.Table

/-!
# Documents

A document is a sequence of statements: assignments and headers.  The
assignments after a header build the table that it names; a header in double
brackets adds one more table to a list.
-/

namespace RiskGate.Toml

/-! ## Values -/

/-- Read the items of an array after its opening bracket, or after a comma.  The
first argument bounds their number. -/
def readItems (readValue : List Char → Option (Node × List Char)) : Nat → List Char → Option (List Node × List Char)
  | 0, _ => none
  | count + 1, text =>
      match skipLines text.length text with
      | ']' :: rest => some ([], rest)
      | text => do
          let (item, rest) ← readValue text
          match skipLines rest.length rest with
          | ']' :: rest => some ([item], rest)
          | ',' :: rest => do
              let (items, rest) ← readItems readValue count rest
              return (item :: items, rest)
          | _ => none

/-- Read one assignment: a key path, an equals sign and a value. -/
def readPair (readValue : List Char → Option (Node × List Char)) (text : List Char) :
    Option ((List String × Node) × List Char) := do
  let (path, rest) ← readKey text
  let rest ← readMark '=' rest
  let (node, rest) ← readValue (skipSpace rest)
  return ((path, node), rest)

/-- Read the assignments of an inline table, at least one of them. -/
def readPairs (readValue : List Char → Option (Node × List Char)) :
    Nat → List Char → Option (List (List String × Node) × List Char)
  | 0, _ => none
  | count + 1, text => do
      let (pair, rest) ← readPair readValue text
      match skipSpace rest with
      | '\x7d' :: rest => some ([pair], rest)
      | ',' :: rest => do
          let (pairs, rest) ← readPairs readValue count rest
          return (pair :: pairs, rest)
      | _ => none

/-- Read a value that nests at most `depth` arrays and inline tables. -/
def readValue : Nat → List Char → Option (Node × List Char)
  | depth, '[' :: rest =>
      match depth with
      | 0 => none
      | depth + 1 => do
          let (items, rest) ← readItems (readValue depth) (rest.length + 1) rest
          return (.array items, rest)
  | depth, '\x7b' :: rest =>
      match depth with
      | 0 => none
      | depth + 1 => do
          let (pairs, rest) ←
            match skipSpace rest with
            | '\x7d' :: rest => some ([], rest)
            | rest => readPairs (readValue depth) (rest.length + 1) rest
          return ((← Table.ofPairs pairs).node, rest)
  | _, text =>
      match text with
      | '"' :: _ | '\'' :: _ => (readString text).map fun (value, rest) => (.string value, rest)
      | _ => readPlain text

/-! ## Statements -/

/-- One line of a document that says something. -/
inductive Statement where
  | assign (path : List String) (node : Node)
  | header (path : List String)
  | rowHeader (path : List String)

/-- Read a statement up to and with the end of its line. -/
def readStatement (text : List Char) : Option (Statement × List Char) :=
  match text with
  | '[' :: '[' :: rest => do
      let (path, rest) ← readKey rest
      let rest ← readMark ']' rest
      let rest ← readMark ']' rest
      return (.rowHeader path, ← readLineEnd rest)
  | '[' :: rest => do
      let (path, rest) ← readKey rest
      let rest ← readMark ']' rest
      return (.header path, ← readLineEnd rest)
  | _ => do
      let ((path, node), rest) ← readPair (readValue (depthLimit - 1)) text
      return (.assign path node, ← readLineEnd rest)

/-- Read all statements; the first argument bounds their number. -/
def readStatements : Nat → List Char → Option (List Statement)
  | 0, _ => none
  | count + 1, text =>
      match skipLines text.length text with
      | [] => some []
      | text => do
          let (statement, rest) ← readStatement text
          let statements ← readStatements count rest
          return statement :: statements

/-! ## Sections -/

/-- The document so far, and the section under construction: its path, whether
it is a row of a list, and its table. -/
structure Draft where
  root : Table := {}
  path : List String := []
  isRow : Bool := false
  current : Table := {}

/-- Add a row to the list under a key. -/
def addRow (key : String) (row : Table) (parent : Table) : Option Table :=
  match parent.entries.find? key with
  | none => some { parent with entries := parent.entries ++ [(key, .tables [row.node])] }
  | some (.tables rows) =>
      some { parent with entries := parent.entries.put key (.tables (rows ++ [row.node])) }
  | some _ => none

/-- Put a table under a key that holds nothing. -/
def addTable (key : String) (table : Table) (parent : Table) : Option Table :=
  match parent.entries.find? key with
  | none => some { parent with entries := parent.entries ++ [(key, table.node)] }
  | some _ => none

/-- Put the section under construction into the document. -/
def Draft.close (draft : Draft) : Option Table :=
  match draft.path.getLast? with
  | none => some draft.current
  | some key =>
      let place := if draft.isRow then addRow key draft.current else addTable key draft.current
      draft.root.alterAt place false draft.path.dropLast

/-- Take the table that a header names out of its parent.  It may only be there
because a longer path went through it. -/
def takeTable (key : String) (parent : Table) : Option (Table × Table) :=
  match parent.entries.find? key with
  | none => some ({}, parent)
  | some (.table origin entries) =>
      if origin.implied && !origin.dotted && !origin.inline then
        some (⟨{}, entries⟩, { parent with entries := parent.entries.remove key })
      else none
  | some _ => none

/-- The table at the end of a path that exists, through the last rows of lists. -/
def Table.at? : List String → Table → Option Table
  | [], table => some table
  | key :: path, table =>
      match table.entries.find? key with
      | some (.tables rows) => rows.getLast? >>= Node.asTable false >>= at? path
      | some node => node.asTable false >>= at? path
      | none => none

/-- Begin the section of a header. -/
def Draft.begin (path : List String) (isRow : Bool) (root : Table) : Option Draft := do
  let key ← path.getLast?
  let way := path.dropLast
  let root ← root.alterAt some false way
  if isRow then
    return { root, path, isRow }
  else
    let parent ← root.at? way
    let (current, rest) ← takeTable key parent
    let root ← root.alterAt (fun _ => some rest) false way
    return { root, path, current }

/-- Carry out one statement. -/
def Draft.step (draft : Draft) : Statement → Option Draft
  | .assign path node => (draft.current.assign path node).map ({ draft with current := · })
  | .header path => draft.close >>= Draft.begin path false
  | .rowHeader path => draft.close >>= Draft.begin path true

/-- Drop the mark that may stand before a text to tell its encoding. -/
def skipByteOrderMark : List Char → List Char
  | '\uFEFF' :: rest => rest
  | text => text

/-- Read a document: the entries of its root table. -/
def readDocument (text : String) : Option Entries := do
  let text := skipByteOrderMark text.toList
  let statements ← readStatements (text.length + 1) text
  let draft ← statements.foldlM Draft.step {}
  return (← draft.close).entries

end RiskGate.Toml
