import SearchNotation.Json.Writer
import SearchNotation.Notation.Basic
import SearchNotation.Query.Predicate

/-!
# Queries

A `Query` matches every document, is one predicate, or joins queries in four clause lists.
`Query.toJson` writes it for the engine and `Query.text` as an indented outline with one line for
each node and each clause list that is not empty.
-/

set_option autoImplicit false

namespace SearchNotation

/-- How the queries of a clause list are joined. -/
inductive Join where
  /-- Every query has to match. -/
  | must
  /-- No query may match. -/
  | mustNot
  /-- At least one query should match. -/
  | should
  /-- Every query has to match, without a score. -/
  | filter
  deriving DecidableEq, Repr

namespace Join

/-- All of them, in the order in which they are shown. -/
def all : List Join := [.must, .mustNot, .should, .filter]

/-- The key of a clause list. -/
def key : Join → String
  | .must => "must"
  | .mustNot => "must_not"
  | .should => "should"
  | .filter => "filter"

/-- The clause list that a key stands for. -/
def ofKey? (key : String) : Option Join := all.find? (·.key = key)

end Join

/-- Four clause lists. -/
structure Clauses (α : Type) where
  must : List α := []
  mustNot : List α := []
  should : List α := []
  filter : List α := []
  deriving DecidableEq

namespace Clauses

variable {α : Type}

/-- The clause list of a join. -/
def get (clauses : Clauses α) : Join → List α
  | .must => clauses.must
  | .mustNot => clauses.mustNot
  | .should => clauses.should
  | .filter => clauses.filter

/-- Puts another clause list in place. -/
def set (clauses : Clauses α) (join : Join) (list : List α) : Clauses α :=
  match join with
  | .must => { clauses with must := list }
  | .mustNot => { clauses with mustNot := list }
  | .should => { clauses with should := list }
  | .filter => { clauses with filter := list }

/-- Appends to a clause list, as a caller does who joins queries by hand. -/
def append (clauses : Clauses α) (join : Join) (list : List α) : Clauses α :=
  clauses.set join (clauses.get join ++ list)

/-- Whether all four lists are empty. -/
def isEmpty (clauses : Clauses α) : Bool := Join.all.all fun join => (clauses.get join).isEmpty

end Clauses

/-- A predicate with the entry that it was built from. -/
structure Leaf where
  /-- The name of the kind. -/
  kind : String
  /-- The field that is tested, if the kind has one. -/
  field : Option String
  params : Bag
  predicate : Predicate
  deriving DecidableEq

/-- The leaf on one line. -/
def Leaf.text (leaf : Leaf) : String :=
  let json := leaf.predicate.toJson.compact
  match leaf.field with
  | some field => s!"{leaf.kind}({Text.quoted field}) {json}"
  | none => s!"{leaf.kind} {json}"

/-- What documents are looked for. -/
inductive Query where
  | matchAll
  | bool (clauses : Clauses Query)
  | leaf (leaf : Leaf)

namespace Query

/-- The query that joins clauses; without any it matches every document. -/
def ofClauses (clauses : Clauses Query) : Query :=
  if clauses.isEmpty then .matchAll else .bool clauses

/-! ## Engine form -/

/-- The members of a joined query; an empty list has none. -/
def clauseMembers (clauses : Clauses Json) : Dict Json :=
  Dict.ofList ((Join.all.filter fun join => !(clauses.get join).isEmpty).map
    fun join => (join.key, .array (clauses.get join)))

mutual

/-- The query as the engine takes it. -/
def toJson : Query → Json
  | .matchAll => Json.single "match_all" (.object [])
  | .bool clauses => Json.single "bool" (.object (clauseMembers (clausesToJson clauses)))
  | .leaf l => l.predicate.toJson
  termination_by structural query => query

/-- The four clause lists as the engine takes them. -/
def clausesToJson : Clauses Query → Clauses Json
  | ⟨must, mustNot, should, filter⟩ =>
    ⟨listToJson must, listToJson mustNot, listToJson should, listToJson filter⟩
  termination_by structural clauses => clauses

/-- Several queries as the engine takes them. -/
def listToJson : List Query → List Json
  | [] => []
  | query :: rest => toJson query :: listToJson rest
  termination_by structural queries => queries

end

/-! ## Outline -/

/-- A line at a depth of the outline. -/
def line (depth : Nat) (text : String) : String :=
  String.ofList (List.replicate (2 * depth) ' ') ++ text

/-- The lines of a clause list under its key, none if it is empty. -/
def clauseLines (depth : Nat) (join : Join) (lines : List String) : List String :=
  if lines.isEmpty then [] else line depth join.key :: lines

mutual

/-- The lines of the outline from a depth on. -/
def lines (depth : Nat) : Query → List String
  | .matchAll => [line depth "MatchAll"]
  | .leaf l => [line depth l.text]
  | .bool clauses => line depth "Bool" :: clausesLines (depth + 1) clauses
  termination_by structural query => query

/-- The lines of the four clause lists. -/
def clausesLines (depth : Nat) : Clauses Query → List String
  | ⟨must, mustNot, should, filter⟩ =>
    clauseLines depth .must (listLines (depth + 1) must)
      ++ clauseLines depth .mustNot (listLines (depth + 1) mustNot)
      ++ clauseLines depth .should (listLines (depth + 1) should)
      ++ clauseLines depth .filter (listLines (depth + 1) filter)
  termination_by structural clauses => clauses

/-- The lines of several queries. -/
def listLines (depth : Nat) : List Query → List String
  | [] => []
  | query :: rest => lines depth query ++ listLines depth rest
  termination_by structural queries => queries

end

/-- The outline of a query. -/
def text (query : Query) : String := String.join ((query.lines 0).map (· ++ "\n"))

/-! ## Leaves -/

mutual

/-- The leaves from left to right. -/
def leaves : Query → List Leaf
  | .matchAll => []
  | .leaf l => [l]
  | .bool clauses => clausesLeaves clauses
  termination_by structural query => query

/-- The leaves of the four clause lists. -/
def clausesLeaves : Clauses Query → List Leaf
  | ⟨must, mustNot, should, filter⟩ =>
    listLeaves must ++ listLeaves mustNot ++ listLeaves should ++ listLeaves filter
  termination_by structural clauses => clauses

/-- The leaves of several queries. -/
def listLeaves : List Query → List Leaf
  | [] => []
  | query :: rest => leaves query ++ listLeaves rest
  termination_by structural queries => queries

end

end Query

end SearchNotation
