import SearchNotation.Toml.Reader

/-!
# Documents of TOML

The tables of a document are put together from its statements. No name is given two values, and
a table is opened once: a header may open a table that earlier headers only passed through, but
none that a path of an entry made, and a path of an entry does not go into a table that a header
opened, or end in one that a header passed through. What stands in braces or brackets is complete.
-/

set_option autoImplicit false

namespace SearchNotation.Toml

/-- How a table came to be. -/
inductive Origin where
  /-- A header passed through it. -/
  | passed
  /-- The path of an entry passed through it. -/
  | dotted
  /-- A header opened it. -/
  | opened
  deriving DecidableEq, Repr

/-- What stands under a name while a document is put together. -/
inductive Node where
  | complete (value : Value)
  | table (origin : Origin) (nodes : List (String × Node))
  /-- A list of tables, of which headers open the last. -/
  | listed (tables : List (List (String × Node)))

/-- What stands under the names of a table. -/
abbrev Nodes := Dict Node

/-! ## Entries -/

/-- Gives a value to the name at the end of a path. -/
def Nodes.assign (nodes : Nodes) (first : String) (rest : List String) (value : Value) :
    Option Nodes :=
  match rest with
  | [] =>
    if Dict.contains nodes first then none else some (Dict.insert nodes first (.complete value))
  | next :: names =>
    let within (origin : Origin) (inner : Nodes) : Option Nodes :=
      if names.isEmpty && origin != .dotted then none
      else Nodes.assign inner next names value
    match Dict.get? nodes first with
    | none =>
      (within .dotted []).map fun inner => Dict.insert nodes first (.table .dotted inner)
    | some (.table .opened _) => none
    | some (.table origin inner) =>
      (within origin inner).map fun inner => Dict.insert nodes first (.table origin inner)
    | some (.listed tables) =>
      match tables.getLast? with
      | none => none
      | some last => (within .opened last).map fun last =>
        Dict.insert nodes first (.listed (tables.dropLast ++ [last]))
    | some (.complete _) => none
  termination_by structural rest

/-- Gives values to paths, one after the other. -/
def Nodes.assignAll (nodes : Nodes) (entries : List (Key × Value)) : Option Nodes :=
  entries.foldlM (fun nodes e => nodes.assign e.1.first e.1.rest e.2) nodes

/-! ## Headers -/

/-- Changes what stands at the end of a header's path. -/
def Nodes.change (nodes : Nodes) (first : String) (rest : List String)
    (f : Option Node → Option Node) : Option Nodes :=
  match rest with
  | [] => (f (Dict.get? nodes first)).map (Dict.insert nodes first)
  | next :: names =>
    match Dict.get? nodes first with
    | none =>
      (Nodes.change [] next names f).map fun inner =>
        Dict.insert nodes first (.table .passed inner)
    | some (.table origin inner) =>
      (Nodes.change inner next names f).map fun inner =>
        Dict.insert nodes first (.table origin inner)
    | some (.listed tables) =>
      match tables.getLast? with
      | none => none
      | some last => (Nodes.change last next names f).map fun last =>
        Dict.insert nodes first (.listed (tables.dropLast ++ [last]))
    | some (.complete _) => none
  termination_by structural rest

/-- The table that a header opens, with its entries. -/
def openTable (entries : List (Key × Value)) : Option Node → Option Node
  | none => (Nodes.assignAll [] entries).map (.table .opened)
  | some (.table .passed nodes) => (Nodes.assignAll nodes entries).map (.table .opened)
  | some _ => none

/-- The list of tables that a header adds to, with the entries of the new one. -/
def appendTable (entries : List (Key × Value)) : Option Node → Option Node
  | none => (Nodes.assignAll [] entries).map fun nodes => .listed [nodes]
  | some (.listed tables) =>
    (Nodes.assignAll [] entries).map fun nodes => .listed (tables ++ [nodes])
  | some _ => none

/-- The entries up to the next header, and what follows them. -/
def splitSection : List Statement → List (Key × Value) × List Statement
  | .entry key value :: rest =>
    let (entries, rest) := splitSection rest
    ((key, value) :: entries, rest)
  | statements => ([], statements)

/-- A header with the entries below it. -/
structure Section where
  listed : Bool
  key : Key
  entries : List (Key × Value)

/-- The sections of a document after the entries without a header. -/
def sections : List Statement → List Section
  | [] => []
  | .entry _ _ :: rest => sections rest
  | .table key :: rest => ⟨false, key, (splitSection rest).1⟩ :: sections rest
  | .listed key :: rest => ⟨true, key, (splitSection rest).1⟩ :: sections rest

/-- Puts a section where its header says. -/
def Nodes.place (nodes : Nodes) (s : Section) : Option Nodes :=
  nodes.change s.key.first s.key.rest ((if s.listed then appendTable else openTable) s.entries)

/-! ## Finished tables -/

mutual

/-- The value that stands under a name. -/
def Node.toValue : Node → Value
  | .complete value => value
  | .table _ nodes => .table (entriesOf nodes)
  | .listed tables => .array (tablesOf tables)
  termination_by structural node => node

/-- The entries of a table. -/
def entriesOf : List (String × Node) → List (String × Value)
  | [] => []
  | (name, node) :: rest => (name, node.toValue) :: entriesOf rest
  termination_by structural nodes => nodes

/-- The tables of a list. -/
def tablesOf : List (List (String × Node)) → List Value
  | [] => []
  | nodes :: rest => .table (entriesOf nodes) :: tablesOf rest
  termination_by structural tables => tables

end

/-- The table of the entries between braces. -/
def inlineTable? (entries : List (Key × Value)) : Option Table :=
  (Nodes.assignAll [] entries).map entriesOf

/-- The table that statements stand for. -/
def tableOf? (statements : List Statement) : Option Table := do
  let nodes ← Nodes.assignAll [] (splitSection statements).1
  let nodes ← (sections statements).foldlM Nodes.place nodes
  return entriesOf nodes

/-- Drops a byte order mark at the front. -/
def dropByteOrderMark : List Char → List Char
  | '\uFEFF' :: rest => rest
  | text => text

/-- The table that a text stands for, if it is a document. -/
def read? (text : String) : Option Table := do
  let chars := dropByteOrderMark text.toList
  let statements ← readStatements inlineTable? (chars.length + 1) chars
  tableOf? statements

end SearchNotation.Toml
